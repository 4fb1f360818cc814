import Literate.Shell.Tool

/-!
# Copying

The tool `cat` copies what it reads to its output. It can number lines, leave out repeated empty ones, and show bytes that
cannot be seen.
-/

namespace Literate.Shell.Copy

open Text

/-- What is done to the lines. -/
structure Style where
  numbersAll : Bool
  numbersFilled : Bool
  squeezes : Bool
  showsEnds : Bool
  showsTabs : Bool
  showsHidden : Bool

/-- The text of a number after spaces that fill it up to a width. -/
def padded (width n : Nat) : Text :=
  let digits := ofNat n
  List.replicate (width - digits.length) (byte ' ') ++ digits

/-- A byte below 128 that cannot be seen, with a mark. -/
def control (b : UInt8) : Text := if b < 32 then [byte '^', b + 64] else if b = 127 then "^?" else [b]

namespace Style

/-- How a byte of a line is shown. -/
def byte (s : Style) (b : UInt8) : Text :=
  if b = Text.byte '\t' then if s.showsTabs then "^I" else [b]
  else if !s.showsHidden then [b]
  else if b < 128 then control b
  else "M-" ++ control (b - 128)

/-- How the bytes of a line are shown. A carriage return before the line feed is shown with the end of the line. -/
def inside (s : Style) (line : Text) : Text :=
  let body := trimEnd (· = Text.byte '\n') line
  if s.showsEnds ∧ !s.showsHidden ∧ endsWith line "\r\n" then (body.dropLast.flatMap s.byte) ++ "^M"
  else body.flatMap s.byte

/-- The lines as they are written, after lines of which the last was number `n`; `empties` is how many empty lines stand
before them. -/
def lines (s : Style) : (n empties : Nat) → List Text → Text
  | _, _, [] => []
  | n, empties, l :: rest =>
    let isEmpty := l = [Text.byte '\n']
    if s.squeezes ∧ isEmpty ∧ 1 ≤ empties then s.lines n empties rest
    else
      let isNumbered := s.numbersFilled && !isEmpty || !s.numbersFilled && s.numbersAll
      let n := if isNumbered then n + 1 else n
      let number := if isNumbered then padded 6 n ++ "\t" else []
      let ending := if endsWith l "\n" then (if s.showsEnds then ofString "$\n" else "\n") else []
      number ++ s.inside l ++ ending ++ s.lines n (if isEmpty then empties + 1 else 0) rest

/-- Whether the text is written as it is. -/
def isPlain (s : Style) : Bool :=
  !(s.numbersAll || s.numbersFilled || s.squeezes || s.showsEnds || s.showsTabs || s.showsHidden)

end Style

/-- The options of `cat`. -/
def choices : List Choice :=
  [⟨byte 'b', "number-nonblank", false⟩, ⟨byte 'n', "number", false⟩, ⟨byte 's', "squeeze-blank", false⟩,
    ⟨byte 'v', "show-nonprinting", false⟩, ⟨byte 'E', "show-ends", false⟩, ⟨byte 'T', "show-tabs", false⟩,
    ⟨byte 'A', "show-all", false⟩, ⟨byte 'e', [], false⟩, ⟨byte 't', [], false⟩, ⟨byte 'u', [], false⟩]

/-- Whether what is read from an operand would be written back to where it comes from. -/
def isOwnOutput (c : Call) (r : Read) : Bool :=
  match c.outputFile with
  | none => false
  | some l =>
    if isInput r.path then c.inputFile.any fun (k, n) => k = l && n < ((c.disk.text? l).getD []).length
    else (c.disk.locate r.path).toOption == some l && ((c.disk.text? l).getD []) ≠ []

/-- The texts of the operands joined together, with the message for each that cannot be read at its place. -/
def joined (c : Call) (rs : List Read) : List (Nat × Text) :=
  rs.map fun r =>
    if isOwnOutput c r then (2, c.message (shown r.path ++ ": input file is output file"))
    else
      match r.text with
      | .ok t => (1, t)
      | .error t => (2, c.message (shown r.path ++ ": " ++ troubleText t))

/-- The parts in a style that goes on from one text to the next; `before` are the texts before them. -/
def styled (s : Style) (before : Text) : List (Nat × Text) → List (Nat × Text)
  | [] => []
  | (1, t) :: rest =>
    let shown := fun (t : Text) => s.lines 0 0 (physicalLines t)
    (1, (shown (before ++ t)).drop (shown before).length) :: styled s (before ++ t) rest
  | part :: rest => part :: styled s before rest

/-- Copies what it reads. -/
def run (c : Call) : Report :=
  match Arguments.read? choices true c.args with
  | .error m => c.refuse 1 m
  | .ok a =>
    let style : Style := {
      numbersAll := a.has 'n'
      numbersFilled := a.has 'b'
      squeezes := a.has 's'
      showsEnds := a.has 'E' || a.has 'e' || a.has 'A'
      showsTabs := a.has 'T' || a.has 't' || a.has 'A'
      showsHidden := a.has 'v' || a.has 'e' || a.has 't' || a.has 'A' }
    let parts := joined c (c.reads a.operands)
    { writes := if style.isPlain then parts else styled style [] parts
      status := if parts.any (·.1 = 2) then 1 else 0
      reads := readsInput a.operands }

end Literate.Shell.Copy
