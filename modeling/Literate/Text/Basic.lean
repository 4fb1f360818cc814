/-!
# Text

A text is a sequence of bytes. Documents, names and messages are texts, and need not be well-formed UTF-8: what cannot
be read as characters is carried through unchanged.

String literals stand for their UTF-8 bytes through a coercion, so `("begin" : Text)` is a text.
-/

namespace Literate

/-- A sequence of bytes. -/
abbrev Text := List UInt8

namespace Text

/-- Texts that are compared as equal are equal. -/
instance lawfulBEq : LawfulBEq Text := inferInstance

/-- The UTF-8 bytes of a string. -/
def ofString (s : String) : Text := s.toByteArray.data.toList

instance : Coe String Text := ⟨ofString⟩

/-- The string whose UTF-8 bytes a text is, if there is one. -/
def toString? (t : Text) : Option String := String.fromUTF8? ⟨t.toArray⟩

/-- The UTF-8 bytes of a sequence of characters. -/
def ofChars (cs : List Char) : Text := cs.flatMap String.utf8EncodeChar

/-- The byte of an ASCII character. -/
abbrev byte (c : Char) : UInt8 := c.toUInt8

/-! ## Numbers -/

/-- The decimal digits of a natural number. -/
def ofNat (n : Nat) : Text := (Nat.toDigits 10 n).map byte

/-- The decimal digits of an integer, after a minus sign if it is negative. -/
def ofInt : Int → Text
  | .ofNat n => ofNat n
  | .negSucc n => byte '-' :: ofNat (n + 1)

/-! ## Joining and splitting -/

/-- The texts one after another, with `sep` between them. -/
def join (sep : Text) (ts : List Text) : Text := sep.intercalate ts

/-- One more byte before the pieces that follow it. -/
def pushPiece (sep b : UInt8) : List Text → List Text
  | [] => [[b]]
  | p :: ps => if b = sep then [] :: p :: ps else (b :: p) :: ps

/-- The pieces of a text between the bytes equal to `sep`: one more than there are such bytes. -/
def pieces (sep : UInt8) (t : Text) : List Text := t.foldr (pushPiece sep) [[]]

/-- One more byte before the lines that follow it. -/
def pushLine (b : UInt8) : List Text → List Text
  | [] => [[b]]
  | l :: ls => if b = byte '\n' then [b] :: l :: ls else (b :: l) :: ls

/-- The physical lines of a text: each ends with its line feed, except that the last may have none. -/
def physicalLines (t : Text) : List Text := t.foldr pushLine []

/-- The texts before and after the first byte equal to `sep`. -/
def cut (sep : UInt8) (t : Text) : Option (Text × Text) :=
  match t.dropWhile (· ≠ sep) with
  | [] => none
  | _ :: after => some (t.takeWhile (· ≠ sep), after)

/-- The text if a condition holds, and the empty text otherwise. -/
def onlyIf (c : Prop) [Decidable c] (t : Text) : Text := if c then t else []

/-! ## Searching -/

/-- Whether `t` begins with `p`. -/
def startsWith (t p : Text) : Bool := p.isPrefixOf t

/-- Whether `t` ends with `p`. -/
def endsWith (t p : Text) : Bool := p.reverse.isPrefixOf t.reverse

/-- The place of the first occurrence of `p` in `t`, where `t` begins at place `n`. -/
def indexFrom? (p : Text) : (n : Nat) → Text → Option Nat
  | n, [] => if p.isEmpty then some n else none
  | n, b :: rest => if p.isPrefixOf (b :: rest) then some n else indexFrom? p (n + 1) rest

/-- The number of bytes before the first occurrence of `p` in `t`. -/
def indexOf? (t p : Text) : Option Nat := indexFrom? p 0 t

/-- Whether `p` occurs in `t`. -/
def includes (t p : Text) : Bool := (indexOf? t p).isSome

/-- What follows `p` in a text that begins with it. -/
def dropStart? (t p : Text) : Option Text := if p.isPrefixOf t then some (t.drop p.length) else none

/-- The number of bytes before the last occurrence of `p` in `t`. -/
def lastIndexOf? (t p : Text) : Option Nat :=
  (indexOf? t.reverse p.reverse).map fun n => t.length - n - p.length

/-! ## Trimming -/

/-- The text without the bytes of a class at its end. -/
def trimEnd (p : UInt8 → Bool) (t : Text) : Text := (t.reverse.dropWhile p).reverse

/-- The text without the bytes of a class at its start and its end. -/
def trim (p : UInt8 → Bool) (t : Text) : Text := trimEnd p (t.dropWhile p)

/-- `n` copies of a text. -/
def copies (n : Nat) (t : Text) : Text := (List.replicate n t).flatten

end Text

end Literate
