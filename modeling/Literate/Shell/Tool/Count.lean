import Literate.Shell.Tool.Copy

/-!
# Counting

The tool `wc` counts lines, words and bytes, and measures the longest line.
-/

namespace Literate.Shell.Count

open Text

/-- Whether a byte separates words. -/
def isSpace (b : UInt8) : Bool := b = 32 || (9 ≤ b && b ≤ 13)

/-- The number of words of a text: runs of bytes that are no white space, with one in each that can be printed. -/
def words (t : Text) : Nat :=
  (t.foldl (fun (n, inside) b =>
    if isSpace b then (n, false)
    else if inside || !isPrintable b then (n, inside)
    else (n + 1, true)) (0, false)).1

/-- The number of columns that the longest line takes up; tabs go to the next multiple of eight. -/
def longest (t : Text) : Nat :=
  let (most, column) := t.foldl (fun (most, column) b =>
    if b = byte '\n' ∨ b = byte '\r' ∨ b = 12 then (Nat.max most column, 0)
    else if b = byte '\t' then (most, column + 8 - column % 8)
    else if isPrintable b then (most, column + 1)
    else (most, column)) (0, 0)
  Nat.max most column

/-- What is counted, in the order in which it is shown. -/
structure Counts where
  lines : Nat
  words : Nat
  bytes : Nat
  longest : Nat

/-- The counts of a text. -/
def Counts.of (t : Text) : Counts := ⟨t.count (byte '\n'), Count.words t, t.length, Count.longest t⟩

/-- The counts of two texts together. -/
def Counts.add (a b : Counts) : Counts :=
  ⟨a.lines + b.lines, a.words + b.words, a.bytes + b.bytes, Nat.max a.longest b.longest⟩

/-- The options of `wc`. -/
def choices : List Choice :=
  [⟨byte 'c', "bytes", false⟩, ⟨byte 'm', "chars", false⟩, ⟨byte 'l', "lines", false⟩,
    ⟨byte 'L', "max-line-length", false⟩, ⟨byte 'w', "words", false⟩, ⟨0, "total", true⟩]

/-- The counts that options ask for. -/
def selected (a : Arguments) (n : Counts) : List Nat :=
  let isDefault := ['c', 'm', 'l', 'L', 'w'].all fun c => !a.has c
  (if isDefault || a.has 'l' then [n.lines] else []) ++ (if isDefault || a.has 'w' then [n.words] else []) ++
    (if a.has 'm' then [n.bytes] else []) ++ (if isDefault || a.has 'c' then [n.bytes] else []) ++
    (if a.has 'L' then [n.longest] else [])

/-- The width of the numbers: that of the size of all files, or more if a size is not known. -/
def width (c : Call) (a : Arguments) : Nat :=
  let paths := if a.operands.isEmpty then [[byte '-']] else a.operands
  if paths.length = 1 ∧ (selected a ⟨0, 0, 0, 0⟩).length = 1 then 1
  else
    let sizes := paths.map fun p =>
      if isInput p then c.inputFile.map fun (l, _) => ((c.disk.text? l).getD []).length
      else
        match fileText c.disk p with
        | .ok t => if (c.disk.locate p).toOption = some Disk.null then none else some t.length
        | .error .isFolder => none
        | .error _ => some 0
    let digits := (ofNat (sizes.foldl (fun n s => n + s.getD 0) 0)).length
    if sizes.contains none then Nat.max 7 digits else digits

/-- Counts what it reads. -/
def run (c : Call) : Report :=
  match Arguments.read? choices true c.args with
  | .error m => c.refuse 1 m
  | .ok a =>
    let reads := c.reads a.operands
    let total := (a.value? (Char.ofNat 0)).getD "auto"
    let width := if total = ("only" : Text) then 1 else width c a
    let line := fun (n : Counts) (name : Text) =>
      join " " ((selected a n).map (Copy.padded width)) ++ onlyIf (name ≠ []) (" " ++ name) ++ "\n"
    let name := fun (p : Text) =>
      if a.operands.isEmpty then [] else if p.contains (byte '\n') then shown p else p
    let each := reads.flatMap fun r =>
      match r.text with
      | .ok t => [(1, line (.of t) (name r.path))]
      | .error .isFolder =>
        [(2, c.message (shown r.path ++ ": " ++ troubleText .isFolder)), (1, line ⟨0, 0, 0, 0⟩ (name r.path))]
      | .error t =>
        [(2, c.message (if r.path = [] then ofString "invalid zero-length file name"
          else shown r.path ++ ": " ++ troubleText t))]
    let sum := reads.foldl (fun n r =>
      match r.text with
      | .ok t => n.add (.of t)
      | .error _ => n) (⟨0, 0, 0, 0⟩ : Counts)
    let showsTotal := total = ("always" : Text) || total = ("only" : Text) ||
      (total = ("auto" : Text) && 1 < reads.length)
    let last := if !showsTotal then [] else line sum (if total = ("only" : Text) then [] else "total")
    let shownEach := if total = ("only" : Text) then each.filter (·.1 = 2) else each
    if total = ("auto" : Text) ∨ total = ("always" : Text) ∨ total = ("only" : Text) ∨ total = ("never" : Text) then
      { writes := shownEach ++ [(1, last)]
        status := if each.any (·.1 = 2) then 1 else 0
        reads := readsInput a.operands }
    else
      { writes := [(2, c.message ("invalid argument " ++ shownArgument total ++ " for '--total'") ++
          "Valid arguments are:\n  - 'auto'\n  - 'always'\n  - 'only'\n  - 'never'\n" ++ c.hint)], status := 1 }

end Literate.Shell.Count
