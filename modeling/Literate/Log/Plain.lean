import Literate.Decimal
import Literate.Json.Quoted
import Literate.Log.Level
import Literate.Log.Time

/-!
# Plain log records

A record is written on one line, as `key=value` pairs or as a JSON object. Groups are dotted keys in the one and nested
objects in the other. Attributes and groups can be laid down in advance for all records of a handler.
-/

namespace Literate.Log

open Text

/-- A log record: what was said, when, and whether the place in the program is known where it was said. -/
structure Record where
  time : Option Instant
  message : Message
  located : Bool

namespace Record

/-- The time of a record, if it has one that is not the start of the year one. -/
def moment? (r : Record) : Option Instant := r.time.filter (!·.isZero)

end Record

/-- What stands for a place in a program. -/
def sourceText : Text := "SOURCE"

/-! ## Values -/

/-- A number in its general form. -/
def floatText (bits : UInt64) : Text := (Decimal.ofBits bits).general

/-- A list of texts between brackets. -/
def listText (items : List Text) : Text := "[" ++ join " " items ++ "]"

mutual

/-- The text of a value. -/
def Value.plainText : Value → Text
  | .text t => t
  | .int n => ofInt n
  | .uint n => ofNat n
  | .float bits => floatText bits
  | .duration ns => durationText ns
  | .bool b => if b then "true" else "false"
  | .time t => t.format "2006-01-02 15:04:05.999999999 -0700 MST"
  | .null => "<nil>"
  | .texts items => listText (items.getD [])
  | .error m => m
  | .failure m _ => m
  | .group attrs => "[" ++ join " " (attrTexts attrs) ++ "]"

/-- The texts of attributes. -/
def attrTexts : List (Text × Value) → List Text
  | [] => []
  | (k, v) :: rest => (k ++ "=" ++ v.plainText) :: attrTexts rest

end

/-- Whether a text has to be quoted to stand between blanks and equal signs. -/
def needsQuotes (t : Text) : Bool :=
  t.isEmpty || (symbols t).any fun r =>
    let n := r.char.toNat
    if n < 0x80 then n ≤ 0x20 || r.char == '=' || r.char == '"'
    else r.char == Symbol.replacement || isSpace r.char || !Unicode.isPrintable r.char

/-- A text, quoted if need be. -/
def quoteIfNeeded (t : Text) : Text := if needsQuotes t then quote t else t

/-- The time to the millisecond: the time with a fourth digit in its fraction, without the byte at which that digit
stands in a year of four digits. -/
def millisecondTime (t : Instant) : Text :=
  let tenth : Instant := { t with nanoseconds := t.nanoseconds / 1000000 * 1000000 + 100000 }
  (tenth.format rfc3339Nano).eraseIdx 23

/-- A value in a line of pairs. -/
def pairValue : Value → Text
  | .time t => millisecondTime t
  | .text t => quoteIfNeeded t
  | .null => quoteIfNeeded Value.null.plainText
  | .texts items => quoteIfNeeded (listText (items.getD []))
  | .error m => quoteIfNeeded m
  | v => v.plainText

/-- A value in a JSON object. -/
def jsonValue : Value → Text
  | .text t => Json.quote Json.logged t
  | .float bits =>
    match Decimal.ofBits bits with
    | .finite d => d.plain
    | _ => Json.quote Json.logged ("!ERROR:json: unsupported value: " ++ floatText bits)
  | .duration ns => ofInt ns
  | .time t =>
    let year := t.civil.year
    if year < 0 ∨ year ≥ 10000 then Json.quote Json.logged "!ERROR:time.Time year outside of range [0,9999]"
    else "\"" ++ t.format rfc3339Nano ++ "\""
  | .null => "null"
  | .texts none => "null"
  | .texts (some items) => "[" ++ join "," (items.map (Json.quote Json.embedded)) ++ "]"
  | .error m => Json.quote Json.logged m
  | v => v.plainText

/-! ## Writing attributes -/

/-- The options of a plain handler: the level from which on records are written, whether places are, and the sample by
which times are written. -/
structure Options where
  level : Level
  caller : Bool
  layout : Text

/-- The text being written: what comes before the next key, and the path of the open groups. -/
structure Line where
  out : Text := []
  sep : Text := []
  path : Text := []

namespace Line

variable (json : Bool)

/-- What stands between two attributes. -/
def separator : Text := if json then "," else " "

/-- Writes a key. -/
def key (l : Line) (k : Text) : Line :=
  let name : Text :=
    if json then "\"" ++ Json.body Json.logged l.path ++ Json.body Json.logged k ++ "\""
    else if l.path.isEmpty then quoteIfNeeded k
    else if !needsQuotes l.path && !needsQuotes k then l.path ++ k
    else quote (l.path ++ k)
  { l with out := l.out ++ l.sep ++ name ++ (if json then ":" else "="), sep := separator json }

/-- Opens a group. -/
def openGroup (l : Line) (name : Text) : Line :=
  if json then
    let l := l.key json name
    { l with out := l.out ++ "\x7b", sep := [] }
  else { l with path := l.path ++ name ++ "." }

/-- Closes the group that was opened last. -/
def closeGroup (l : Line) (name : Text) : Line :=
  if json then { l with out := l.out ++ "\x7d", sep := separator json }
  else { l with path := l.path.take (l.path.length - name.length - 1), sep := separator json }

/-- The value of an attribute after times under the key `time` are put in the layout; `none` if nothing is to be
written. -/
def replaced (layout k : Text) (v : Value) : Option Value :=
  match v with
  | .time t =>
    if k = ("time" : Text) then
      let stamp := t.format layout
      if stamp.isEmpty then none else some (.text stamp)
    else some v
  | .null => if k.isEmpty then none else some v
  | v => some v

/-- Writes a group under a key; without a key its attributes stand by themselves. A group of which nothing is written
leaves no text. -/
def nested (l : Line) (k : Text) (write : Line → Line × Bool) : Line × Bool :=
  match write (if k.isEmpty then l else l.openGroup json k) with
  | (inner, false) => ({ inner with out := l.out }, false)
  | (inner, true) => (if k.isEmpty then inner else inner.closeGroup json k, true)

/-- Writes a value that is no group. -/
def scalar (layout : Text) (l : Line) (k : Text) (v : Value) : Line × Bool :=
  match replaced layout k v with
  | none => (l, false)
  | some v =>
    let l := l.key json k
    ({ l with out := l.out ++ if json then jsonValue v else pairValue v }, true)

mutual

/-- Writes an attribute; says whether there was something to write. -/
def write (layout : Text) (l : Line) (k : Text) : Value → Line × Bool
  | .group [] => (l, true)
  | .group attrs => l.nested json k fun l => writeAll layout l attrs
  | .failure _ [] => (l, true)
  | .failure _ attrs => l.nested json k fun l => writeAll layout l attrs
  | v => l.scalar json layout k v

/-- Writes attributes; says whether there was something to write. -/
def writeAll (layout : Text) (l : Line) : List (Text × Value) → Line × Bool
  | [] => (l, false)
  | (k, v) :: rest =>
    let (l, first) := write layout l k v
    let (l, more) := writeAll layout l rest
    (l, first || more)

end

end Line

/-! ## Handlers -/

/-- A plain handler: its form and options, the open groups and how many of them are written already, and the attributes
that are written already, with the path of the groups around them. -/
structure Plain where
  json : Bool
  options : Options
  groups : List Text := []
  written : Nat := 0
  ready : Text := []
  path : Text := []

namespace Plain

/-- What comes before an attribute after the attributes that are written already. -/
def afterReady (h : Plain) : Text :=
  if h.json && h.ready.getLast? == some (byte '\x7b') then [] else Line.separator h.json

/-- Opens the groups that are not written yet. -/
def openGroups (h : Plain) (l : Line) : Line := (h.groups.drop h.written).foldl (Line.openGroup h.json) l

/-- The handler with more attributes for all of its records. -/
def withAttrs (h : Plain) (attrs : List Attr) : Plain :=
  if attrs.all (·.2.isEmptyGroup) then h
  else
    let start : Line := { out := h.ready, sep := if h.ready.isEmpty then [] else h.afterReady, path := h.path }
    match Line.writeAll h.json h.options.layout (h.openGroups start) attrs with
    | (_, false) => h
    | (l, true) => { h with ready := l.out, path := l.path, written := h.groups.length }

/-- The handler with one more group around the attributes to come. -/
def withGroup (h : Plain) (name : Text) : Plain := { h with groups := h.groups ++ [name] }

/-- The attributes of a record after what every record has. -/
def writeRest (h : Plain) (l : Line) (attrs : List Attr) : Text :=
  let l := if h.ready.isEmpty then l else { l with out := l.out ++ l.sep ++ h.ready, sep := h.afterReady }
  let (l, opened) : Line × Nat :=
    if attrs.isEmpty then (l, h.written)
    else match Line.writeAll h.json h.options.layout (h.openGroups { l with path := h.path }) attrs with
      | (_, false) => (l, h.written)
      | (l, true) => (l, h.groups.length)
  l.out ++ onlyIf h.json (List.replicate (opened + 1) (byte '\x7d'))

/-- The line of a record. -/
def line (h : Plain) (r : Record) : Text :=
  let builtin : List Attr :=
    (r.moment?.toList.map fun t => (ofString "time", Value.time t)) ++
      [Attr.text "level" (toUpper r.message.level.name)] ++
      (if h.options.caller && r.located then [Attr.text "source" sourceText] else []) ++
      [Attr.text "msg" r.message.text]
  let (l, _) := Line.writeAll h.json h.options.layout { out := onlyIf h.json "\x7b" } builtin
  h.writeRest l (r.message.attrs.filter fun a => !a.2.isEmptyGroup) ++ "\n"

end Plain

end Literate.Log
