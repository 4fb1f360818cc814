import Literate.Decimal

/-!
# Data

A datum is what a configuration file holds: nothing, a truth value, a number, a text, a list, or a mapping. The entries
of a mapping keep their order, and their keys are texts.
-/

namespace Literate

open Text

/-- A value of a configuration file. -/
inductive Datum where
  | null
  | bool (b : Bool)
  | int (n : Int)
  /-- A floating-point number, by its bits. -/
  | float (bits : UInt64)
  | text (t : Text)
  | list (items : List Datum)
  | mapping (entries : List (Text × Datum))

namespace Datum

/-- A floating-point number without an exponent. -/
def fixed (bits : UInt64) : Text :=
  match Decimal.ofBits bits with
  | .finite d => d.fixed
  | n => n.general

mutual

/-- A datum as one line of text: lists and mappings in brackets, the entries of a mapping by their keys. -/
def line : Datum → Text
  | null => "<nil>"
  | bool b => if b then "true" else "false"
  | int n => ofInt n
  | float bits => (Decimal.ofBits bits).general
  | text t => t
  | list items => "[" ++ join " " (lines items) ++ "]"
  | mapping entries => "map[" ++ join " " (((pairs entries).mergeSort fun a b => a.1 ≤ b.1).map (·.2)) ++ "]"

/-- The lines of the items of a list. -/
def lines : List Datum → List Text
  | [] => []
  | d :: ds => d.line :: lines ds

/-- The keys of a mapping, with the lines of its entries. -/
def pairs : List (Text × Datum) → List (Text × Text)
  | [] => []
  | (k, d) :: rest => (k, k ++ ":" ++ d.line) :: pairs rest

end

mutual

/-- How many lists and mappings stand within each other. -/
def depth : Datum → Nat
  | list items => depthItems items + 1
  | mapping entries => depthEntries entries + 1
  | _ => 0

/-- The largest depth of the items of a list. -/
def depthItems : List Datum → Nat
  | [] => 0
  | d :: ds =>
    let here := d.depth
    let rest := depthItems ds
    if rest < here then here else rest

/-- The largest depth of the values of a mapping. -/
def depthEntries : List (Text × Datum) → Nat
  | [] => 0
  | (_, d) :: es =>
    let here := d.depth
    let rest := depthEntries es
    if rest < here then here else rest

end

end Datum

end Literate
