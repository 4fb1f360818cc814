import Literate.Text.Basic

/-!
# Fields

A word that has been expanded is a sequence of fields, each of which is an argument of its command. The bytes of a field
remember whether they were quoted: that decides where a field ends and what its bytes mean in a pattern.
-/

namespace Literate.Shell

open Text

/-- A byte of a field. -/
structure Glyph where
  byte : UInt8
  isQuoted : Bool
deriving DecidableEq

/-- Whether a glyph has the meaning of a byte and does not only stand for it. -/
def Glyph.means (g : Glyph) (b : UInt8) : Bool := g.byte = b && !g.isQuoted

/-- An argument that is being put together. -/
abbrev Field := List Glyph

namespace Field

/-- The field of a text. -/
def ofText (isQuoted : Bool) (t : Text) : Field := t.map fun b => ⟨b, isQuoted⟩

/-- The text of a field. -/
def text (f : Field) : Text := f.map (·.byte)

/-- One more glyph before the components that follow it. -/
def pushComponent (g : Glyph) : List Field → List Field
  | [] => [[g]]
  | f :: fs => if g.byte = Text.byte '/' then [] :: f :: fs else (g :: f) :: fs

/-- The fields between the slashes. -/
def components (f : Field) : List Field := f.foldr pushComponent [[]]

end Field

/-- Fields that are being put together: those that are complete, and the one that is not. -/
structure Fields where
  done : List Field := []
  current : Option Field := none
  /-- Whether the last field was ended by white space. -/
  isSpaced : Bool := false

namespace Fields

/-- Ends the last field. -/
def close (fs : Fields) : Fields :=
  match fs.current with
  | some f => { fs with done := fs.done ++ [f], current := none }
  | none => fs

/-- All fields. -/
def all (fs : Fields) : List Field := fs.close.done

/-- Adds a text to the last field, which is begun if need be. -/
def add (fs : Fields) (isQuoted : Bool) (t : Text) : Fields :=
  { fs with current := some (fs.current.getD [] ++ Field.ofText isQuoted t), isSpaced := false }

/-- Adds a byte of a text that is split at separators. White space separates however much of it there is; any other
separator ends a field even if that is empty. -/
def split (separators : Text) (fs : Fields) (b : UInt8) : Fields :=
  if !separators.contains b then fs.add false [b]
  else if b = Text.byte ' ' ∨ b = Text.byte '\t' ∨ b = Text.byte '\n' then
    { fs.close with isSpaced := fs.isSpaced || fs.current.isSome }
  else if fs.current.isSome ∨ fs.isSpaced then { fs.close with isSpaced := false }
  else { fs with done := fs.done ++ [[]] }

/-- Adds a text that is split at separators. -/
def addSplit (fs : Fields) (separators t : Text) : Fields := t.foldl (split separators) fs

end Fields

end Literate.Shell
