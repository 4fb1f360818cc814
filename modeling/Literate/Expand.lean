import Literate.Scan
import Literate.Suggest

/-!
# Expansion

Expansion replaces every use by the elements of the names it mentions. Each entity is expanded once; later references
take its expanded elements. The references being expanded are kept on a guard, so that a cycle is noticed. The guard
holds different defined references, which bounds the recursion by the number of entities.
-/

namespace Literate

open Text Log

/-! ## Failures -/

namespace Failure

/-- The references on the guard, as an attribute. -/
def guardAttr (guard : List Ref) : Attr := Attr.text "expanding" (chainText (guard.map Ref.text))

/-- A failure with the position and the text of a use, if there is one. -/
def locatedUse (f : Failure) : Option Use → Failure
  | none => f
  | some u => f.located u.position u.directive

/-- A reference leads back to one that is being expanded. -/
def referenceCycle (guard : List Ref) (ref : Ref) (source : Option Use) : Failure :=
  (((ofFault .referenceCycle).wrap (some (foreign (chainText ((guard ++ [ref]).map Ref.text))))).locatedUse
    source).withAttrs [guardAttr guard]

/-- Too many references are nested. -/
def maxDepthExceeded (maxDepth : Int) (guard : List Ref) (source : Option Use) : Failure :=
  ((ofFault .maxDepthExceeded).locatedUse source).withAttrs [Attr.int "max_depth" maxDepth, guardAttr guard]

/-- A reference that is not defined, with the names to suggest and the reference of the same name in the other
namespace. -/
def undefinedReference (ref : Ref) (source : Option Use) (guard : List Ref) (suggested : List Text)
    (other : Option Ref) : Failure :=
  (((ofFault .undefinedReference).wrap (some (foreign ref.text))).locatedUse source).withAttrs
    ([Attr.text "kind" ref.kind.text, Attr.text "name" ref.name] ++
      (if guard.isEmpty then [] else [guardAttr guard]) ++
      (if suggested.isEmpty then [] else [Attr.text "suggest" (join ", " suggested)]) ++
      other.toList.map fun r => Attr.text "defined_as" r.text)

end Failure

/-- Why a reference that is not defined stops a call. -/
def Web.undefinedStop (w : Web) (ref : Ref) (source : Option Use) : Stop :=
  match Suggest.names? ref.name (w.repository.names ref.kind) with
  | none => .crashed
  | some suggested =>
    let other : Ref := ⟨ref.kind.other, ref.name⟩
    .failed (.undefinedReference ref source w.guard suggested (if w.repository.has other then some other else none))

/-! ## Expanding one reference -/

/-- The elements of an expanded reference, or why there are none. -/
abbrev Expansion := Session × Except Stop (Array Element)

/-- How a reference is expanded that a use mentions. -/
abbrev Expander := Ref → Option Use → Session → Expansion

/-- Appends the elements of references that a use mentions. -/
def expandRefs (expand : Expander) (u : Use) : List Ref → Array Element → Session → Expansion
  | [], out, s => (s, .ok out)
  | ref :: rest, out, s =>
    match expand ref (some u) s with
    | (s, .ok sub) => expandRefs expand u rest (out ++ sub) s
    | (s, .error stop) => (s, .error stop)

/-- Appends elements with their uses expanded. -/
def expandElements (expand : Expander) : List Element → Array Element → Session → Expansion
  | [], out, s => (s, .ok out)
  | .line i :: rest, out, s => expandElements expand rest (out.push (.line i)) s
  | .use u :: rest, out, s =>
    match expandRefs expand u u.refs out s with
    | (s, .ok out) => expandElements expand rest out s
    | (s, .error stop) => (s, .error stop)

/-- Expands a reference with at most `bound` references inside each other. -/
def expandRef (maxDepth : Int) : (bound : Nat) → Expander
  | 0 => fun _ _ s => (s, .error .crashed)
  | bound + 1 => fun ref source s =>
    let guard := s.web.guard
    if ref ∈ guard then (s, .error (.failed (.referenceCycle guard ref source)))
    else match s.web.repository.find? ref with
      | none => (s, .error (s.web.undefinedStop ref source))
      | some entity =>
        if entity.resolved then (s, .ok entity.elements)
        else if maxDepth ≤ guard.length then (s, .error (.failed (.maxDepthExceeded maxDepth guard source)))
        else
          let s := (s.modify fun w => { w with guard := w.guard ++ [ref] }).log .trace "expand"
            [Attr.text "ref" ref.text, Attr.int "depth" (guard.length + 1)]
          let (s, out) := expandElements (expandRef maxDepth bound) entity.elements.toList #[] s
          let s := s.modify fun w => { w with guard := w.guard.dropLast }
          match out with
          | .ok out =>
            (s.modify fun w => { w with repository := w.repository.update ref fun _ => ⟨out, true⟩ }, .ok out)
          | .error stop => (s, .error stop)

/-! ## Expanding everything -/

/-- Expands references one after another. The call is cancelled once as many of them as `patience` says are done;
without a number it goes on to the end. -/
def expandEach (maxDepth : Int) (bound : Nat) : (patience : Option Nat) → List Ref → Session → Outcome
  | _, [], s => (s, none)
  | some 0, _ :: _, s => (s, some .canceled)
  | patience, ref :: rest, s =>
    match expandRef maxDepth bound ref none s with
    | (s, .ok _) => expandEach maxDepth bound (patience.map (· - 1)) rest s
    | (s, .error stop) => (s, some stop)

/-- Expands every chunk and every stream, as far as `patience` lets it. A line that waits for its continuation is
dropped. Expanding a second time does nothing. -/
def Web.expandAll (settings : Settings) (patience : Option Nat) (w : Web) : Outcome :=
  let s : Session := ⟨w, #[]⟩
  if w.expanded then (s, none)
  else
    let s := match w.pending with
      | none => s
      | some p => (s.log .warn "discarding unterminated continuation" [Attr.text "position" p.position.text]).modify
          fun w => { w with pending := none }
    let refs := w.repository.refs
    match expandEach settings.maxDepth (refs.length + 1) patience refs s with
    | (s, none) =>
      ((s.modify fun w => { w with expanded := true }).log .debug "expanded"
        [Attr.int "chunks" (w.repository.names .chunk).length, Attr.int "streams" (w.repository.names .stream).length],
       none)
    | stopped => stopped

end Literate
