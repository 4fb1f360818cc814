import Literate.Web

/-!
# Summaries

A summary lists what every chunk and stream holds, expanded or not.
-/

namespace Literate

/-- What is listed of a reference: its lines, all of its elements, and the references that it uses. -/
structure Entry where
  ref : Ref
  lines : Nat
  elements : Nat
  uses : List Ref
deriving DecidableEq

/-- The entry of an entity. -/
def Entity.entry (ref : Ref) (e : Entity) : Entry where
  ref
  lines := (e.elements.toList.filter Element.isLine).length
  elements := e.elements.size
  uses := e.elements.toList.flatMap Element.refs

/-- The entries of every stream, and then of every chunk. -/
def Web.summary (w : Web) : List Entry :=
  [Kind.stream, Kind.chunk].flatMap fun k => (w.repository.get k).map fun (name, e) => e.entry ⟨k, name⟩

end Literate
