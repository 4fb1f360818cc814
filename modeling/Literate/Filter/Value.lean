import Literate.Decimal
import Literate.Log.Time
import Literate.Summary
import Literate.Word

/-!
# Values of filters

What expressions come to: nothing, truth values, numbers, texts, lists, maps, lengths of time, moments, zones, and the
entry that a filter is asked about. Values are compared in two ways. `Value.same` compares numbers of all sorts as numbers and looks
into lists in the same way; `Value.identical` tells values of different sorts apart, and is how the values of maps are
compared.
-/

namespace Literate.Filter

open Text

/-- What a list was made for. Lists of texts and of integers come from outside of a filter or from ranges, those of bytes
are moments that are written as such, `pairs` are the entries of a map, and `pair` is one of them. -/
inductive ListSort where
  | plain
  | texts
  | ints
  | bytes
  | pairs
  | pair
deriving DecidableEq, Repr

/-- What a map was made for: one with texts for keys, one made of pairs, and one that groups the elements of a list. -/
inductive MapSort where
  | named
  | paired
  | grouped
deriving DecidableEq, Repr

/-- A value. -/
inductive Value where
  | nil
  | bool (b : Bool)
  | int (n : Int)
  /-- A byte of a text. -/
  | byte (n : Nat)
  /-- An integer that is a measure of time. -/
  | long (n : Int)
  | float (x : Float)
  | text (t : Text)
  /-- A list, which is nothing as well if it was never made. -/
  | list (sort : ListSort) (made : Bool) (items : List Value)
  | map (sort : MapSort) (entries : List (Value × Value))
  /-- A length of time in nanoseconds. -/
  | duration (n : Int)
  | time (t : Log.Instant)
  | month (n : Nat)
  | weekday (n : Nat)
  /-- A zone, or a `handle` by which it is reached: only a handle can be asked anything. -/
  | zone (z : Log.Zone) (handle : Bool)
  | entry (e : Entry)
  /-- What can be done with a value, given by a name. -/
  | method (owner : Value) (name : String)

/-- Whether lists of two sorts are compared by their elements. -/
def ListSort.comparable (a b : ListSort) : Bool :=
  match a, b with
  | .plain, .plain | .plain, .texts | .plain, .ints | .plain, .bytes => true
  | .texts, .plain | .texts, .texts => true
  | .ints, .plain | .ints, .ints => true
  | .bytes, .plain | .bytes, .bytes => true
  | _, _ => false

/-- What a map has for keys that are not there. -/
def MapSort.default : MapSort → Value
  | .grouped => .list .plain false []
  | _ => .nil

namespace Value

/-- A list of values. -/
abbrev ofList (items : List Value) : Value := .list .plain true items

/-- A list of texts, which was never made if there are none. -/
def ofTexts (ts : List Text) : Value := .list .texts (!ts.isEmpty) (ts.map .text)

/-! ## Parts of values -/

/-- A truth value. -/
def truth? : Value → Option Bool
  | bool b => some b
  | _ => none

/-- A text. -/
def text? : Value → Option Text
  | text t => some t
  | _ => none

/-- An integer of any sort. -/
def integer? : Value → Option Int
  | int n | long n => some n
  | byte n => some n
  | _ => none

/-- A number as a floating-point number. -/
def float? : Value → Option Float
  | float x => some x
  | v => v.integer?.map Float.ofInt

/-- The items of a list. -/
def items? : Value → Option (List Value)
  | list _ _ vs => some vs
  | _ => none

/-- Whether a value is nothing. -/
def isNil : Value → Bool
  | nil => true
  | list _ made _ => !made
  | _ => false

/-- A floating-point number cut off to an integer; one beyond 64 bits becomes the least of them. -/
def truncate (x : Float) : Int :=
  if !(x.abs < Float.ofNat Word.half) then -Word.half
  else if x < 0 then -((-x).floor.toUInt64.toNat : Int)
  else x.floor.toUInt64.toNat

/-- A value as a place in a list: an integer, or a floating-point number cut off. -/
def place? : Value → Option Int
  | float x => some (truncate x)
  | v => v.integer?

/-- A value as a number of things to take: an integer or a measure of time, but not a byte. -/
def amount? : Value → Option Int
  | int n | long n | duration n => some n
  | month n | weekday n => some n
  | _ => none

/-- A value as an integer: an integer, a floating-point number cut off, or a measure of time. -/
def count? : Value → Option Int
  | float x => some (truncate x)
  | duration n => some n
  | month n | weekday n => some n
  | v => v.integer?

/-- What a handle leads to; any other value is its own. -/
def plain : Value → Value
  | zone z _ => zone z false
  | v => v

/-- The name of the sort of a value. -/
def sortName : Value → Text
  | nil => "nil"
  | bool _ => "bool"
  | int _ | long _ => "int"
  | byte _ => "uint"
  | float _ => "float"
  | text _ => "string"
  | list .. => "array"
  | map .. => "map"
  | duration _ => "time.Duration"
  | time _ => "time.Time"
  | month _ => "time.Month"
  | weekday _ => "time.Weekday"
  | zone .. => "time.Location"
  | method .. => "func"
  | entry _ => "github.com/ardnew/litweb/cli/cmd.listEntry"

/-! ## Texts of values -/

/-- The fields of an entry, with the names by which they are known. -/
def fields (e : Entry) : List (String × String × Value) :=
  [("kind", "Kind", .text e.ref.kind.text), ("name", "Name", .text e.ref.name), ("lines", "Lines", .int e.lines),
   ("elements", "Elements", .int e.elements), ("uses", "Uses", ofTexts (e.uses.map Ref.text))]

/-- Whether a text comes before another, byte by byte. -/
def textLess : Text → Text → Bool
  | _, [] => false
  | [], _ :: _ => true
  | a :: s, b :: t => a < b || (a == b && textLess s t)

/-- Whether a key of a map is written before another. -/
def keyLess : Value → Value → Bool
  | bool a, bool b => !a && b
  | text a, text b => textLess a b
  | float a, float b => a < b || (a.isNaN && !b.isNaN)
  | time a, time b => a.nanoseconds < b.nanoseconds || (a.nanoseconds == b.nanoseconds && a.seconds < b.seconds)
  | nil, nil => false
  | nil, _ => true
  | a, b =>
    match a.count?, b.count? with
    | some m, some n => m < n
    | _, _ => false

/-- Entries of a map in the order of their keys. -/
def sorted {α : Type} (entries : List (Value × α)) : List (Value × α) :=
  entries.mergeSort fun a b => !keyLess b.1 a.1

mutual

/-- The text of a value. -/
def display : Value → Text
  | nil => "<nil>"
  | bool b => if b then "true" else "false"
  | int n | long n => ofInt n
  | byte n => ofNat n
  | float x => (Decimal.ofBits x.toBits).general
  | text t => t
  | list _ _ vs => "[" ++ join " " (displayAll vs) ++ "]"
  | map _ es => "map[" ++ join " " ((sorted (displayEntries es)).map (·.2)) ++ "]"
  | duration n => Log.durationText n
  | time t => t.format "2006-01-02 15:04:05.999999999 -0700 MST"
  | month n => Log.Layout.nameOf Log.Layout.monthNames (n - 1)
  | weekday n => Log.Layout.nameOf Log.Layout.weekdayNames n
  | zone z handle => if handle then z.name else "\x7b" ++ z.name ++ " [] []  0 0 <nil>\x7d"
  | method _ name => ofString name
  | entry e =>
    "\x7b" ++ join " " [e.ref.kind.text, e.ref.name, ofNat e.lines, ofNat e.elements,
      "[" ++ join " " (e.uses.map Ref.text) ++ "]"] ++ "\x7d"

/-- The texts of values. -/
def displayAll : List Value → List Text
  | [] => []
  | v :: vs => v.display :: displayAll vs

/-- The keys of a map with the texts of its entries. -/
def displayEntries : List (Value × Value) → List (Value × Text)
  | [] => []
  | (k, v) :: es => (k, k.display ++ ":" ++ v.display) :: displayEntries es

end

/-! ## Comparisons -/

mutual

/-- Whether two values are the same and of the same sort. -/
def identical : Value → Value → Bool
  | nil, nil => true
  | bool a, bool b => a == b
  | int a, int b => a == b
  | byte a, byte b => a == b
  | long a, long b => a == b
  | float a, float b => a == b
  | text a, text b => a == b
  | list s m as, list s' m' bs => s == s' && m == m' && identicalAll as bs
  | map s as, map s' bs => s == s' && as.length == bs.length && identicalEntries as bs
  | duration a, duration b => a == b
  | time a, time b => a == b
  | month a, month b => a == b
  | weekday a, weekday b => a == b
  | zone a handle, zone b handle' => a == b && handle == handle'
  | entry a, entry b => a == b
  | _, _ => false

/-- Whether two lists have identical elements. -/
def identicalAll : List Value → List Value → Bool
  | [], [] => true
  | a :: as, b :: bs => identical a b && identicalAll as bs
  | _, _ => false

/-- Whether entries have identical values in a map. -/
def identicalEntries : List (Value × Value) → List (Value × Value) → Bool
  | [], _ => true
  | (k, v) :: es, other =>
    (match other.find? fun e => identical k e.1 with
      | some e => identical v e.2
      | none => false) && identicalEntries es other

end

mutual

/-- Whether two values are equal: numbers as numbers, and lists by their elements. -/
def same : Value → Value → Bool
  | text a, b =>
    match b with
    | text b => a == b
    | _ => false
  | float a, b =>
    match b.float? with
    | some y => a == y
    | none => false
  | time a, b =>
    match b with
    | time b => a.seconds == b.seconds && a.nanoseconds == b.nanoseconds
    | _ => false
  | list s m as, b =>
    match b with
    | list s' m' bs =>
      if s.comparable s' then sameAll as bs else (!m && !m') || identical (list s m as) (list s' m' bs)
    | b => !m && b.isNil
  | a, b =>
    match a.integer? with
    | some x =>
      match b.integer? with
      | some y => x == y
      | none =>
        match b.float? with
        | some y => Float.ofInt x == y
        | none => false
    | none => (a.isNil && b.isNil) || identical a b

/-- Whether two lists have equal elements. -/
def sameAll : List Value → List Value → Bool
  | [], [] => true
  | a :: as, b :: bs => same a b && sameAll as bs
  | _, _ => false

end

/-- Whether a value comes before another, if they can be ordered: two numbers, texts, moments or lengths of time. -/
def less? : Value → Value → Option Bool
  | text a, text b => some (textLess a b)
  | duration a, duration b => some (decide (a < b))
  | time a, time b => some (decide (a.seconds < b.seconds) || (a.seconds == b.seconds && a.nanoseconds < b.nanoseconds))
  | a, b =>
    match a.integer?, b.integer? with
    | some x, some y => some (decide (x < y))
    | _, _ => do return (← a.float?) < (← b.float?)

/-- Whether a value is not after another, if they can be ordered. -/
def notAfter? (a b : Value) : Option Bool :=
  match a, b with
  | float _, _ | _, float _ => do return (← a.float?) ≤ (← b.float?)
  | _, _ => (b.less? a).map (!·)

end Value

end Literate.Filter
