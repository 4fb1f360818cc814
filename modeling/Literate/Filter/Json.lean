import Literate.Filter.Lookup
import Literate.Json.Quoted
import Literate.Json.Reader
import Literate.Text.Base64

/-!
# Values as JSON

Values are written with two spaces for every level of lists and maps. A number that is not finite has no such form, nor
has a map whose keys may be other than texts. What is read has floating-point numbers only.
-/

namespace Literate.Filter.Value

open Text

/-- A line break and the spaces before what is within some lists and maps. -/
def newline (depth : Nat) : Text := Text.byte '\n' :: List.replicate (2 * depth) (Text.byte ' ')

/-- Items in brackets, each on a line of its own. -/
def block (start stop : Text) (depth : Nat) (items : List Text) : Text :=
  if items.isEmpty then start ++ stop
  else start ++ newline (depth + 1) ++ join ("," ++ newline (depth + 1)) items ++ newline depth ++ stop

/-- A number. -/
def jsonNumber? (x : Float) : Option Text :=
  match Decimal.ofBits x.toBits with
  | .finite d => some d.plain
  | _ => none

/-- A moment, if its year has four digits and it is less than a day off from UTC. -/
def jsonTime? (t : Log.Instant) : Option Text :=
  let year := t.civil.year
  if 0 ≤ year ∧ year ≤ 9999 ∧ t.zone.offset.natAbs < 86400 then some (t.format Log.rfc3339Nano) else none

/-- A key of an object and its value. -/
def jsonField (key value : Text) : Text := Json.quote Json.listing key ++ ": " ++ value

mutual

/-- A value as JSON, within some lists and maps. -/
def toJson? (depth : Nat) : Value → Option Text
  | nil => some "null"
  | bool b => some (if b then "true" else "false")
  | int n | long n | duration n => some (ofInt n)
  | byte n | month n | weekday n => some (ofNat n)
  | float x => jsonNumber? x
  | text t => some (Json.quote Json.listing t)
  | list .bytes made vs =>
    some (if made then "\"" ++ toBase64 (vs.filterMap fun v => v.integer?.map fun n => UInt8.ofNat n.toNat) ++ "\"" else "null")
  | list _ made vs =>
    if made then (toJsonAll? (depth + 1) vs).map (block "[" "]" depth) else some "null"
  | map sort es =>
    if sort = .named then
      (toJsonEntries? (depth + 1) es).map fun fields => block [123] [125] depth ((sorted fields).map (·.2))
    else none
  | time t => (jsonTime? t).map fun t => "\"" ++ t ++ "\""
  | zone .. => some "\x7b\x7d"
  | method .. => none
  | entry e =>
    some (block [123] [125] depth
      ([jsonField "kind" (Json.quote Json.listing e.ref.kind.text), jsonField "name" (Json.quote Json.listing e.ref.name),
        jsonField "lines" (ofNat e.lines), jsonField "elements" (ofNat e.elements)] ++
        if e.uses.isEmpty then []
        else [jsonField "uses"
          (block "[" "]" (depth + 1) (e.uses.map fun r => Json.quote Json.listing r.text))]))

/-- Values as JSON. -/
def toJsonAll? (depth : Nat) : List Value → Option (List Text)
  | [] => some []
  | v :: vs => do return (← toJson? depth v) :: (← toJsonAll? depth vs)

/-- The keys of a map with its entries as fields of an object. -/
def toJsonEntries? (depth : Nat) : List (Value × Value) → Option (List (Value × Text))
  | [] => some []
  | (k, v) :: es => do
    let value ← toJson? depth v
    return (k, jsonField ((k.text?).getD []) value) :: (← toJsonEntries? depth es)

end

mutual

/-- The value of a datum. -/
def ofDatum : Datum → Value
  | .null => nil
  | .bool b => bool b
  | .int n => int n
  | .float bits => float (Float.ofBits bits)
  | .text t => text t
  | .list ds => ofList (ofDatums ds)
  | .mapping es => map .named ((ofEntries es).foldl (fun m e => put m e.1 e.2) [])

/-- The values of data. -/
def ofDatums : List Datum → List Value
  | [] => []
  | d :: ds => ofDatum d :: ofDatums ds

/-- The values of entries. -/
def ofEntries : List (Text × Datum) → List (Value × Value)
  | [] => []
  | (k, d) :: es => (text k, ofDatum d) :: ofEntries es

end

/-- The value that a JSON text stands for; nothing may follow it. -/
def ofJson? (t : Text) : Option Value :=
  match Json.first? t with
  | some (d, rest) => if Json.skipBlanks rest = [] then some (ofDatum d) else none
  | none => none

end Literate.Filter.Value
