import Literate.Expand

/-!
# Rendering

The text of an expanded chunk or stream is the concatenation of its lines.
-/

namespace Literate

open Text Log

/-- The text of an element, if it is a line. -/
def Element.text? (lines : Array Text) : Element → Option Text
  | line i => lines[i]?
  | use _ => none

/-- The text of elements that are all lines. -/
def renderElements (lines : Array Text) (elements : Array Element) : Option Text :=
  (elements.toList.mapM (Element.text? lines)).map List.flatten

/-- The text of an expanded reference. -/
def Web.render (w : Web) (ref : Ref) : Except Stop Text :=
  match w.repository.find? ref with
  | none => .error (w.undefinedStop ref none)
  | some entity =>
    if !entity.resolved then
      .error (.failed ((Failure.ofFault .unexpanded).withAttrs [Attr.text "ref" ref.text]))
    else match renderElements w.lines entity.elements with
      | some text => .ok text
      | none => .error .crashed

end Literate
