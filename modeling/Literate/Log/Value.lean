import Literate.Text.Basic
import Literate.Word

/-!
# Attributes

Log records and failures carry attributes: keys with values of a few kinds. A group is a value that holds attributes
itself.
-/

namespace Literate.Log

/-- A zone in which moments are shown. That of the host is not off from UTC, but is not the same. -/
inductive Zone where
  | utc
  | host
  /-- A zone some seconds off from UTC, which need not have a name. -/
  | fixed (name : Text) (offset : Int)
deriving DecidableEq, Repr

namespace Zone

/-- The seconds by which a zone is off from UTC. -/
def offset : Zone → Int
  | utc | host => 0
  | fixed _ n => n

/-- The name of a zone. -/
def name : Zone → Text
  | utc => "UTC"
  | host => "Local"
  | fixed t _ => t

/-- What is written for a zone after a time, if it has a name. -/
def abbreviation : Zone → Text
  | utc | host => "UTC"
  | fixed t _ => t

end Zone

/-- A moment: seconds since 1970-01-01T00:00:00Z, nanoseconds after that second, and the zone in which it is shown. -/
structure Instant where
  seconds : Int
  nanoseconds : Nat
  zone : Zone
deriving DecidableEq, Repr

namespace Instant

/-- The start of the first of January of the year one, in UTC. -/
def zero : Instant := { seconds := -62135596800, nanoseconds := 0, zone := .utc }

/-- The moment some seconds and nanoseconds after 1970-01-01T00:00:00Z, where the nanoseconds may be any number. The
count of seconds since the year one is a word of 64 bits. -/
def make (seconds nanoseconds : Int) (zone : Zone) : Instant :=
  let total := seconds + nanoseconds.fdiv 1000000000
  { seconds := zero.seconds + Word.wrap (total - zero.seconds), nanoseconds := (nanoseconds.fmod 1000000000).toNat, zone }

/-- Whether a moment is the start of the year one in UTC, in whatever zone it is shown. -/
def isZero (t : Instant) : Bool := t.seconds = zero.seconds && t.nanoseconds = 0

/-- A moment as attributes keep it: the start of the year one loses its zone. -/
def kept (t : Instant) : Instant := if t.isZero then zero else t

end Instant

/-- The value of an attribute. -/
inductive Value where
  /-- A text. -/
  | text (t : Text)
  /-- A signed integer. -/
  | int (n : Int)
  /-- An unsigned integer. -/
  | uint (n : Nat)
  /-- A floating-point number, given by the bits of its binary64 encoding. -/
  | float (bits : UInt64)
  /-- A length of time in nanoseconds. -/
  | duration (nanoseconds : Int)
  /-- A truth value. -/
  | bool (b : Bool)
  /-- A moment. -/
  | time (t : Instant)
  /-- No value. -/
  | null
  /-- A list of texts; `none` is a list that was never made. -/
  | texts (items : Option (List Text))
  /-- An error, of which only the message is known. -/
  | error (message : Text)
  /-- A failure of this library: its message, and the attributes that are logged in its place. -/
  | failure (message : Text) (attrs : List (Text × Value))
  /-- Attributes under one key. -/
  | group (attrs : List (Text × Value))

/-- A key and its value. -/
abbrev Attr := Text × Value

/-- A key with a text. -/
def Attr.text (key : String) (t : Text) : Attr := (key, .text t)

/-- A key with an integer. -/
def Attr.int (key : String) (n : Int) : Attr := (key, .int n)

/-- A key with a truth value. -/
def Attr.bool (key : String) (b : Bool) : Attr := (key, .bool b)

/-- A key with a list of texts. -/
def Attr.texts (key : String) (items : Option (List Text)) : Attr := (key, .texts items)

/-- Whether a value is a group without attributes. -/
def Value.isEmptyGroup : Value → Bool
  | .group [] => true
  | _ => false

/-- The group of the given attributes; groups without attributes are left out. -/
def Value.ofAttrs (attrs : List Attr) : Value := .group (attrs.filter fun a => !a.2.isEmptyGroup)

/-- Severity of a record: any integer, of which five are named. -/
structure Level where
  severity : Int
deriving DecidableEq, Repr

namespace Level

def trace : Level := ⟨-8⟩
def debug : Level := ⟨-4⟩
def info : Level := ⟨0⟩
def warn : Level := ⟨4⟩
def error : Level := ⟨8⟩

end Level

/-- What a program has to say: a message of some severity with attributes. -/
structure Message where
  level : Level
  text : Text
  attrs : List Attr

end Literate.Log
