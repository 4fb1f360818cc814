import Literate.Json.Reader
import Literate.Yaml.Reader

/-!
# Configurations

A configuration gives values to flags that the command line leaves out. Its keys are names of flags in some spelling: in
YAML the name itself, cut into nested mappings at any of its hyphens, or the name with underscores; in JSON the name with
underscores, or its words joined with capitals.

`Config.leaves` is the list of settings of a nested mapping in the order in which they are met, and of several settings
under one key the last counts.
-/

namespace Literate

open Text

namespace Datum

mutual

/-- A datum as the value of a flag: numbers become texts, which the flag reads by its own rule. -/
def setting : Datum → Datum
  | int n => text (ofInt n)
  | float bits => text (fixed bits)
  | list items => list (settings items)
  | mapping entries => text (mapping entries).line
  | d => d

/-- The items of a list as values. -/
def settings : List Datum → List Datum
  | [] => []
  | d :: ds => d.setting :: settings ds

end

end Datum

/-- Settings by their keys, with the keys under which a flag is looked for. -/
structure Config where
  entries : List (Text × Datum)
  spellings : Text → List Text

namespace Config

/-! ## Keys -/

/-- A key below another: the two are joined by a hyphen. -/
def below (parent key : Text) : Text := if parent = [] then key else parent ++ "-" ++ key

mutual

/-- The settings of a datum under a key. -/
def leaves (key : Text) : Datum → List (Text × Datum)
  | .mapping entries => leavesOf key entries
  | d => [(key, d.setting)]

/-- The settings of the entries of a mapping under a key. -/
def leavesOf (parent : Text) : List (Text × Datum) → List (Text × Datum)
  | [] => []
  | (key, d) :: rest => leaves (below parent key) d ++ leavesOf parent rest

end

/-- A name with underscores for hyphens. -/
def underscored (name : Text) : Text := name.map fun b => if b = byte '-' then byte '_' else b

/-- A word with a capital. -/
def capitalized (word : Text) : Text :=
  match word with
  | [] => []
  | b :: rest => (if byte 'a' ≤ b && b ≤ byte 'z' then b - 32 else b) :: rest

/-- The words of a name joined with capitals, the first word without one. -/
def camelCased (name : Text) : Text :=
  match pieces (byte '-') name with
  | [] => []
  | word :: rest => word ++ rest.flatMap capitalized

/-! ## Files -/

/-- The configuration of the entries of a mapping, in the order in which they are met. -/
def ofEntries (entries : List (Text × Datum)) : Config := ⟨leavesOf [] entries, fun name => [name, underscored name]⟩

/-- The configuration of a YAML file: a mapping, or nothing at all. -/
def ofYaml? (t : Text) : Option Config := (Yaml.read? t).map ofEntries

/-- The configuration of a JSON file: an object. -/
def ofJson? (t : Text) : Option Config :=
  match Json.read? t with
  | some .null => some ⟨[], fun _ => []⟩
  | some (.mapping entries) => some ⟨entries, fun name => [underscored name, camelCased name]⟩
  | _ => none

/-! ## Flags -/

/-- The last setting under a key. -/
def find? (c : Config) (key : Text) : Option Datum := c.entries.reverse.lookup key

/-- The setting of a flag, under the first of its spellings that is there; nothing is no setting. -/
def resolve (c : Config) (name : Text) : Datum := ((c.spellings name).findSome? c.find?).getD .null

/-- The setting of a flag in the last configuration that has one. -/
def resolveAll (configs : List Config) (name : Text) : Option Datum :=
  configs.reverse.findSome? fun c =>
    match c.resolve name with
    | .null => none
    | d => some d

end Config

end Literate
