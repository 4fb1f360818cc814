import Literate.Text.Quoted

/-!
# JSON strings

How texts are written as JSON strings. Writers differ in a few decisions, which `Escapes` lists; every writer escapes
the quote, the backslash, control characters and the two line separators U+2028 and U+2029, and writes U+FFFD for a byte
that is no character.
-/

namespace Literate.Json

open Text

/-- The decisions of a writer of strings. -/
structure Escapes where
  /-- Whether `<`, `>` and `&` are escaped. -/
  markup : Bool
  /-- Whether backspace and form feed have escapes of one letter. -/
  letters : Bool

/-- The decisions for listings and positions. -/
def listing : Escapes := ⟨true, true⟩

/-- The decisions for lists of texts in log records. -/
def embedded : Escapes := ⟨false, true⟩

/-- The decisions for all other texts in log records. -/
def logged : Escapes := ⟨false, false⟩

/-- How a character is written in a string. -/
def escape (e : Escapes) (r : Symbol) : Text :=
  let n := r.char.toNat
  if r.isBroken then ofChars [Symbol.replacement]
  else if r.char = '"' then "\\\""
  else if r.char = '\\' then "\\\\"
  else if n = 10 then "\\n"
  else if n = 13 then "\\r"
  else if n = 9 then "\\t"
  else if e.letters ∧ n = 8 then "\\b"
  else if e.letters ∧ n = 12 then "\\f"
  else if n < 0x20 ∨ n = 0x2028 ∨ n = 0x2029 then "\\u" ++ hex 4 n
  else if e.markup ∧ (r.char = '<' ∨ r.char = '>' ∨ r.char = '&') then "\\u" ++ hex 4 n
  else r.bytes

/-- The characters of a string without the quotes around it. -/
def body (e : Escapes) (t : Text) : Text := (symbols t).flatMap (escape e)

/-- A text as a JSON string. -/
def quote (e : Escapes) (t : Text) : Text := "\"" ++ body e t ++ "\""

end Literate.Json
