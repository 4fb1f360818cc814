import Literate.Yaml.Token

/-!
# Scalars being read

A buffer holds the characters of a scalar before it is known where the scalar ends. Blanks at its start are passed over, and
blanks at its end do not count until another character follows them.
-/

namespace Literate.Yaml

/-- The characters of a scalar that is being read, and of its source, both with the last one first. -/
structure Buffer where
  read : List Char := []
  /-- How many characters count: those up to the last one that is no blank. -/
  kept : Nat := 0
  /-- Whether the next character begins a new scalar. Until then the old one is still seen. -/
  spent : Bool := false
  source : List Char := []
deriving Repr

namespace Buffer

/-- The characters that count. -/
def content (b : Buffer) : List Char := b.read.reverse.take b.kept

/-- The characters to which the next one is added. -/
def pending (b : Buffer) : List Char := if b.spent then [] else b.read

/-- One more character, which counts. -/
def force (c : Char) (b : Buffer) : Buffer :=
  { b with read := c :: b.pending, kept := b.pending.length + 1, spent := false }

/-- One more character, which does not count yet. -/
def defer (c : Char) (b : Buffer) : Buffer := { b with read := c :: b.pending, spent := false }

/-- One more character; blanks do not count yet, and are passed over at the start. -/
def push (c : Char) (b : Buffer) : Buffer :=
  if !isBlank c then b.force c else if b.pending = [] then b else b.defer c

/-- One more character of a block, in which tabs count. -/
def pushInBlock (c : Char) (b : Buffer) : Buffer :=
  if c ≠ ' ' then b.force c else if b.pending = [] then b else b.defer c

/-- One more character of the source. -/
def note (c : Char) (b : Buffer) : Buffer := { b with source := c :: b.source }

/-- The buffer at the end of a line: if the source ends in blanks, they are dropped together with all that does not
count. -/
def trimmed (b : Buffer) : Buffer :=
  match b.source with
  | c :: _ =>
    if isBlank c then { b with source := b.source.dropWhile isBlank, read := b.content.reverse, spent := false } else b
  | [] => b

/-- The buffer after an empty line: a line end takes the place of a blank at its end. -/
def breakLine (b : Buffer) : Buffer :=
  match b.read with
  | ' ' :: rest => { b with read := '\n' :: rest }
  | _ => b.defer '\n'

end Buffer

end Literate.Yaml
