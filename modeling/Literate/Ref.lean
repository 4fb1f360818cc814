import Literate.Text.Case
import Literate.Text.Quoted
import Literate.Text.Space

/-!
# Chunks and streams

Text is collected under names. There are two separate namespaces, chunks and streams; a reference is a name together
with its namespace.
-/

namespace Literate

open Text

/-- The two namespaces. -/
inductive Kind where
  | chunk
  | stream
deriving DecidableEq, Repr

namespace Kind

/-- The name of a namespace. -/
def text : Kind → Text
  | chunk => "chunk"
  | stream => "stream"

/-- The other namespace. -/
def other : Kind → Kind
  | chunk => stream
  | stream => chunk

/-- Reads the name of a namespace in any case and with white space around it. -/
def ofText? (t : Text) : Option Kind :=
  let word := toLower (trimSpace t)
  if word = ("chunk" : Text) then some chunk
  else if word = ("stream" : Text) then some stream
  else none

/-- Reads the name of a namespace, or says that it is none. -/
def parse (t : Text) : Except Text Kind :=
  match ofText? t with
  | some k => .ok k
  | none => .error ("invalid kind " ++ quote t)

/-- The name that belongs to a number: the two namespaces are numbered from zero. -/
def textOfCode (n : Int) : Text :=
  if n = 0 then chunk.text else if n = 1 then stream.text else "Kind(" ++ ofInt n ++ ")"

end Kind

/-- The name of a chunk or a stream. -/
structure Ref where
  kind : Kind
  name : Text
deriving DecidableEq, Repr

/-- The namespace and the name, with a space between them. -/
def Ref.text (r : Ref) : Text := r.kind.text ++ " " ++ r.name

/-- Something for each of the two namespaces. -/
structure PerKind (α : Type) where
  chunk : α
  stream : α

namespace PerKind

variable {α : Type}

/-- The part for a namespace. -/
def get (p : PerKind α) : Kind → α
  | .chunk => p.chunk
  | .stream => p.stream

/-- Replaces the part for a namespace by its image. -/
def modify (p : PerKind α) (k : Kind) (f : α → α) : PerKind α :=
  match k with
  | .chunk => { p with chunk := f p.chunk }
  | .stream => { p with stream := f p.stream }

@[simp] theorem get_modify_self (p : PerKind α) (k : Kind) (f : α → α) : (p.modify k f).get k = f (p.get k) := by
  cases k <;> rfl

theorem get_modify_of_ne (p : PerKind α) {k l : Kind} (f : α → α) (h : l ≠ k) : (p.modify k f).get l = p.get l := by
  cases k <;> cases l <;> first | rfl | exact absurd rfl h

end PerKind

end Literate
