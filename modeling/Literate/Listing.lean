import Literate.Json.Quoted
import Literate.Log.Pretty
import Literate.Summary
import Literate.Yaml.Scalar

/-!
# Listings

A listing shows the entries of a summary: as text for reading, or as JSON or YAML for other programs.
-/

namespace Literate

open Text

/-- The form of a listing. -/
inductive ListingFormat where
  | text
  | json
  | yaml
deriving DecidableEq, Repr

namespace ListingFormat

/-- The form of a name; what is no name of one stands for text. -/
def parse (t : Text) : ListingFormat :=
  if t = ("json" : Text) then json else if t = ("yaml" : Text) then yaml else text

end ListingFormat

namespace Entry

/-! ## Text -/

/-- The lines of an entry, without a heading. -/
def describe (e : Entry) : Text :=
  "   " ++ Log.block e.ref.name ++ " (" ++ ofNat e.lines ++ " lines)\n" ++
    e.uses.flatMap fun r => (Log.block ("      uses " ++ r.text) ++ "\n" : Text)

/-- Entries with a heading wherever their namespace changes; `last` is the namespace of the entry before. -/
def describeAll : (last : Option Kind) → List Entry → Text
  | _, [] => []
  | last, e :: es =>
    onlyIf (last ≠ some e.ref.kind) (e.ref.kind.text ++ "s:\n") ++ e.describe ++ describeAll (some e.ref.kind) es

/-! ## JSON -/

/-- A text as a JSON string. -/
def jsonText (t : Text) : Text := Json.quote Json.listing t

/-- An entry as a JSON object, indented by two spaces. -/
def json (e : Entry) : Text :=
  let uses := if e.uses = [] then [] else
    [("    \"uses\": [\n" : Text) ++ join ",\n" (e.uses.map fun r => "      " ++ jsonText r.text) ++ "\n    ]"]
  "  \x7b\n" ++ join ",\n" (["    \"kind\": " ++ jsonText e.ref.kind.text, "    \"name\": " ++ jsonText e.ref.name,
    "    \"lines\": " ++ ofNat e.lines, "    \"elements\": " ++ ofNat e.elements] ++ uses) ++ "\n  \x7d"

/-- Entries as a JSON array. -/
def jsonAll (es : List Entry) : Text :=
  if es = [] then "[]\n" else "[\n" ++ join ",\n" (es.map json) ++ "\n]\n"

/-! ## YAML -/

/-- An entry as a YAML mapping in a sequence. -/
def yaml (e : Entry) : Text :=
  "- kind: " ++ e.ref.kind.text ++ "\n  name: " ++ Yaml.scalar e.ref.name ++ "\n  lines: " ++ ofNat e.lines ++
    "\n  elements: " ++ ofNat e.elements ++ "\n" ++ onlyIf (e.uses ≠ []) "  uses:\n" ++
    e.uses.flatMap fun r => ("  - " ++ Yaml.scalar r.text ++ "\n" : Text)

/-- Entries as a YAML sequence. -/
def yamlAll (es : List Entry) : Text := if es = [] then "[]\n" else es.flatMap yaml

/-! ## All forms -/

/-- A listing of entries. -/
def listing (es : List Entry) : ListingFormat → Text
  | .text => describeAll none es
  | .json => jsonAll es
  | .yaml => yamlAll es

end Entry

end Literate
