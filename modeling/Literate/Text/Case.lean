import Literate.Text.Symbol
import Literate.Unicode.Folding
import Literate.Unicode.LetterCase

/-!
# Case of texts

Keywords, tags and names of levels are compared up to simple case folding.
-/

namespace Literate.Text

/-- The text in lower case. -/
def toLower (t : Text) : Text := ofChars ((chars t).map Unicode.toLower)

/-- The text in upper case. -/
def toUpper (t : Text) : Text := ofChars ((chars t).map Unicode.toUpper)

/-- Whether two texts are equal up to case. -/
def foldEq (a b : Text) : Bool := (chars a).map Unicode.fold == (chars b).map Unicode.fold

/-- What follows the characters `p` in a text that begins with them up to case. -/
def dropFold? : (p : List Char) → Text → Option Text
  | [], t => some t
  | _ :: _, [] => none
  | c :: p, b :: rest =>
    let r := Symbol.first b rest
    if Unicode.foldEq c r.char then dropFold? p (rest.drop (r.bytes.length - 1)) else none

end Literate.Text
