import Literate.Json.Quoted
import Literate.Ref

/-!
# Elements of a chunk or stream

A chunk or stream is a sequence of elements: references to stored lines, and uses of other chunks or streams, which
expansion replaces by the lines they stand for.
-/

namespace Literate

open Text

/-- Where a line stands: the name of its file and its number, counted from one. -/
structure Position where
  file : Text
  line : Int
deriving DecidableEq, Repr

namespace Position

/-- The position of nothing. -/
def zero : Position := ⟨[], 0⟩

/-- Whether a position locates nothing. -/
def isZero (p : Position) : Bool := p.file.isEmpty && p.line == 0

/-- File and line with a colon between them; empty without a file. -/
def text (p : Position) : Text := if p.file = [] then [] else p.file ++ ":" ++ ofInt p.line

/-- A position as a JSON object, in which an empty file and a line zero are left out. -/
def json (p : Position) : Text :=
  let file := if p.file = [] then [] else ["\"file\":" ++ Json.quote Json.listing p.file]
  let line := if p.line = 0 then [] else ["\"line\":" ++ ofInt p.line]
  "\x7b" ++ join "," (file ++ line) ++ "\x7d"

end Position

/-- A use: the names whose content is to stand in its place, the directive that asked for it, and where that stands. -/
structure Use where
  kind : Kind
  names : List Text
  directive : Text
  position : Position
deriving DecidableEq, Repr

/-- The references of a use, in order. -/
def Use.refs (u : Use) : List Ref := u.names.map (⟨u.kind, ·⟩)

/-- One entry of a chunk or stream. -/
inductive Element where
  /-- The stored line with this index. -/
  | line (index : Nat)
  /-- A use that is not yet expanded. -/
  | use (u : Use)
deriving DecidableEq, Repr

/-- The references that an element makes. -/
def Element.refs : Element → List Ref
  | line _ => []
  | use u => u.refs

/-- Whether an element is a line. -/
def Element.isLine : Element → Bool
  | line _ => true
  | use _ => false

end Literate
