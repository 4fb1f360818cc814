import Literate.Yaml.Buffer

/-!
# Blocks

A block is a scalar of several lines that are indented by the same number of spaces at least. In a literal block every line
end counts; in a folded one, lines of the same indentation are joined by spaces. Marks at its head say what is kept of the
line ends after it and how far it is indented.
-/

namespace Literate.Yaml

/-- A block that is being read. Columns are zero as long as they are not known. -/
structure Block where
  isLiteral : Bool
  /-- Whether all line ends after the block are dropped. -/
  strips : Bool
  /-- Whether all line ends after the block are kept. -/
  keeps : Bool
  /-- Whether the head says how far the block is indented. -/
  isStated : Bool
  /-- The column of the first line. -/
  first : Nat
  /-- The column of the current line. -/
  current : Nat := 0
  /-- The column of the line before. -/
  before : Nat := 0
  /-- The column of the last line with content. -/
  filled : Nat := 0
  /-- The last column of a line of spaces before the first line. -/
  spaces : Nat := 0
  /-- Whether a line has just ended. -/
  atStart : Bool := false
deriving Repr

namespace Block

/-! ## Heads -/

/-- The characters without a given one at their start. -/
def dropFirst (c : Char) (cs : List Char) : List Char := if cs.head? = some c then cs.drop 1 else cs

/-- The characters without a given one at their end. -/
def dropLast (c : Char) (cs : List Char) : List Char := if cs.getLast? = some c then cs.dropLast else cs

/-- The number of columns that the marks of a head state; zero if they state none. -/
def stated? (marks : List Char) : Option Int :=
  match dropLast '+' (dropLast '-' (dropFirst '+' (dropFirst '-' marks))) with
  | [] => some 0
  | ['0'] => none
  | digits =>
    let negative := digits.head? = some '-'
    let digits := if negative || digits.head? = some '+' then digits.drop 1 else digits
    match Text.digits? 10 (Text.ofChars digits) with
    | none => none
    | some n => if 9 < n ∧ !negative then none else some (if negative then -(n : Int) else n)

/-- A block by the marks at its head, in a line whose key or hyphen has the column `floor`. -/
def ofMarks? (isLiteral : Bool) (floor : Nat) (marks : List Char) : Option Block :=
  (stated? marks).map fun (n : Int) =>
    { isLiteral
      strips := marks.head? = some '-' || marks.getLast? = some '-'
      keeps := marks.head? = some '+' || marks.getLast? = some '+'
      isStated := n ≠ 0
      first := if 0 < n then floor + n.toNat else 0 }

/-- A plain scalar that goes on in a line with a hyphen as a folded block. -/
def ofPlain (column : Nat) : Block :=
  { isLiteral := false, strips := true, keeps := false, isStated := false, first := column, current := column }

/-! ## Ends -/

/-- The characters without some at their end. -/
def dropEnd (p : Char → Bool) (cs : List Char) : List Char := (cs.reverse.dropWhile p).reverse

/-- The content of a block by the characters that it has been read from. -/
def chomp (b : Block) (cs : List Char) : List Char :=
  let body := dropEnd (· = '\n') cs
  let text :=
    if b.strips then dropEnd (· = ' ') body
    else if b.keeps ∨ cs.length ≤ body.length + 1 then cs
    else body ++ ['\n']
  let text := if text = ['\n'] then [] else text
  if b.keeps ∧ text = [] then ['\n'] else text

/-! ## Lines -/

/-- The block when a character of content stands in a column. -/
def reach (column : Nat) (b : Block) : Block :=
  { b with
    first := if b.first = 0 then column else b.first
    current := if b.current = 0 then column else b.current }

/-- Whether the current line is indented as far as the head states. -/
def isAligned (b : Block) : Bool := !b.isStated || b.first ≤ b.current

/-- Whether a column is part of the indentation. -/
def isIndent (column : Nat) (b : Block) : Bool := if b.first = 0 then column = 1 else column < b.first

/-- The block at the end of a line whose last character has the given column. -/
def endLine (column : Nat) (b : Block) : Block :=
  { b with
    spaces := if b.first = 0 then column else b.spaces
    before := b.current
    filled := if b.current = 0 then b.filled else b.current
    atStart := true
    current := 0 }

/-- A space at the start of a line: it counts if it stands right of the indentation. -/
def pushIndent (column : Nat) (b : Block) (t : Buffer) : Block × Buffer :=
  if b.first = 0 ∨ column < b.first then (b, t)
  else ({ b with atStart := b.atStart && b.isLiteral }, t.force ' ')

/-- The line end before the first character of a line is a space if both lines are indented alike, and one of several is
dropped if the line before is empty. -/
def joinLine (column : Nat) (b : Block) (t : Buffer) : Block × Buffer :=
  if b.isLiteral || !b.atStart then (b, t)
  else
    let t :=
      if b.current = b.before then
        match t.pending with
        | '\n' :: rest => { t with read := ' ' :: rest }
        | _ => t
      else if b.before = 0 ∧ b.filled = column then
        match t.pending with
        | '\n' :: '\n' :: rest => { t with read := '\n' :: rest, kept := rest.length + 1 }
        | _ => t
      else t
    ({ b with atStart := false }, t)

end Block

end Literate.Yaml
