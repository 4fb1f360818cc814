import Literate.Log.Plain
import Literate.Text.Width

/-!
# Pretty log records

Records for the eye: either one line with unquoted values, in which groups are dotted keys, or an indented object.
Texts are laid out as blocks: tabs become spaces, and all lines of a text are made as wide as its widest line.

Blocks are the work of the package `lipgloss`, for an output without colours, and `block` is written here after that
package. It is assumed that a block is the text itself, with four spaces for each tab, without the carriage returns that
stand before line feeds, and with spaces at the ends of its lines if it has several. How many these are
(`Text.columns`) matters to no theorem.
-/

namespace Literate.Log

open Text

/-! ## Blocks -/

/-- One more byte before a text in which blanks are replaced already; `next` is the byte that followed it. -/
def pushBlank (b : UInt8) : Text × Option UInt8 → Text × Option UInt8
  | (t, next) =>
    (if b = byte '\t' then "    " ++ t else if b = byte '\r' ∧ next = some (byte '\n') then t else b :: t, some b)

/-- Replaces tabs by spaces, and drops carriage returns before line feeds. -/
def flattenBlanks (t : Text) : Text := (t.foldr pushBlank ([], none)).1

/-- A text as a block: if it has several lines, all are as wide as the widest. -/
def block (t : Text) : Text :=
  let lines := pieces (byte '\n') (flattenBlanks t)
  match lines with
  | [line] => line
  | lines =>
    let widest := (lines.map columns).foldl max 0
    join "\n" (lines.map fun l => l ++ List.replicate (widest - columns l) (byte ' '))

/-- A value that is no group. -/
def blockValue (quoted : Bool) : Value → Text
  | .text t => block (if quoted then quote t else t)
  | .null => "null"
  | .time t => block (t.format rfc3339)
  | .texts items =>
    let t := listText (items.getD [])
    block (if quoted then quote t else t)
  | .error m => block (if quoted then quote m else m)
  | v => block v.plainText

/-! ## Lines -/

mutual

/-- The pairs of an attribute, each after a space. -/
def Value.pairs (path k : Text) : Value → Text
  | .group attrs => pairsAll (if k.isEmpty then path else path ++ k ++ ".") attrs
  | .failure _ attrs => pairsAll (if k.isEmpty then path else path ++ k ++ ".") attrs
  | v => onlyIf (k ≠ []) (" " ++ block (path ++ k ++ "=") ++ blockValue false v)

/-- The pairs of attributes. -/
def pairsAll (path : Text) : List (Text × Value) → Text
  | [] => []
  | (k, v) :: rest => v.pairs path k ++ pairsAll path rest

end

/-! ## Objects -/

mutual

/-- The value of a member of an object that is indented by some number of spaces. -/
def Value.object (indent : Nat) : Value → Text
  | .group attrs => objectAll indent attrs
  | .failure _ attrs => objectAll indent attrs
  | v => blockValue true v

/-- The members of an object, with a comma before every one but the first. -/
def membersAll (indent : Nat) (first : Bool) : List (Text × Value) → Text
  | [] => []
  | (k, v) :: rest =>
    if k.isEmpty then membersAll indent first rest
    else
      onlyIf (!first) "," ++ "\n" ++ List.replicate (indent + 2) (byte ' ') ++ block (quote k) ++ ": " ++
        v.object (indent + 2) ++ membersAll indent false rest

/-- An object whose members are the attributes that have a key. -/
def objectAll (indent : Nat) (attrs : List (Text × Value)) : Text :=
  "\x7b" ++ membersAll indent true attrs ++
    onlyIf (attrs.any fun a => !a.1.isEmpty) ("\n" ++ List.replicate indent (byte ' ')) ++ "\x7d"

end

/-! ## Handlers -/

/-- A pretty handler: its form and options, the attributes for all of its records, and the path of the open groups. -/
structure Pretty where
  json : Bool
  options : Options
  attrs : List Attr := []
  path : Text := []

namespace Pretty

/-- Attributes with the path of the open groups before their keys. -/
def qualify (h : Pretty) (attrs : List Attr) : List Attr := attrs.map fun a => (h.path ++ a.1, a.2)

/-- The handler with more attributes for all of its records. -/
def withAttrs (h : Pretty) (attrs : List Attr) : Pretty := { h with attrs := h.attrs ++ h.qualify attrs }

/-- The handler with one more group around the attributes to come. -/
def withGroup (h : Pretty) (name : Text) : Pretty :=
  if name.isEmpty then h else { h with path := h.path ++ name ++ "." }

/-- The time of a record in the layout; empty if it is not to be written. -/
def stamp (h : Pretty) (r : Record) : Text := (r.moment?.map (·.format h.options.layout)).getD []

/-- The name of a level in capitals. -/
def levelText (l : Level) : Text := toUpper l.name

/-- Every attribute of a record. -/
def allAttrs (h : Pretty) (r : Record) : List Attr :=
  h.attrs ++ h.qualify (r.message.attrs.filter fun a => !a.2.isEmptyGroup)

/-- Whether the place of a record is written. -/
def showsSource (h : Pretty) (r : Record) : Bool := h.options.caller && r.located

/-- The line of a record. -/
def line (h : Pretty) (r : Record) : Text :=
  let stamp := h.stamp r
  let level := levelText r.message.level
  onlyIf (stamp ≠ []) (block stamp ++ " ") ++
    block (level ++ List.replicate (5 - level.length) (byte ' ')) ++
    onlyIf (h.showsSource r) (" " ++ block sourceText) ++ " " ++ block r.message.text ++
    pairsAll [] (h.allAttrs r) ++ "\n"

/-- The object of a record. -/
def object (h : Pretty) (r : Record) : Text :=
  let stamp := h.stamp r
  let builtin : List Attr :=
    (if stamp.isEmpty then [] else [Attr.text "time" stamp]) ++
      [Attr.text "level" (levelText r.message.level)] ++
      (if h.showsSource r then [Attr.text "source" sourceText] else []) ++ [Attr.text "msg" r.message.text]
  objectAll 0 (builtin ++ h.allAttrs r) ++ "\n"

/-- What is written for a record. -/
def write (h : Pretty) (r : Record) : Text := if h.json then h.object r else h.line r

end Pretty

end Literate.Log
