import Literate.Text.Basic
import Literate.Word

/-!
# Numbers in texts

Digits in a base, and integers as they are given to a program: in decimal, or in another base after `0x`, `0o`, `0b` or
`0`, with underscores between digits.
-/

namespace Literate.Text

/-- Whether a byte is a decimal digit. -/
def isDigit (b : UInt8) : Bool := byte '0' ≤ b && b ≤ byte '9'

/-- The value of a digit of some base up to sixteen. -/
def digitValue? (b : UInt8) : Option Nat :=
  if isDigit b then some (b - byte '0').toNat
  else if byte 'a' ≤ b && b ≤ byte 'f' then some ((b - byte 'a').toNat + 10)
  else if byte 'A' ≤ b && b ≤ byte 'F' then some ((b - byte 'A').toNat + 10)
  else none

/-- One more digit after a number. -/
def pushDigit? (base n : Nat) (b : UInt8) : Option Nat :=
  (digitValue? b).bind fun d => if d < base then some (n * base + d) else none

/-- The value of digits in a base; there is at least one. -/
def digits? (base : Nat) (t : Text) : Option Nat := if t = [] then none else t.foldlM (pushDigit? base) 0

/-- The value of digits in a base, with single underscores between them. -/
def groupedDigits? (base : Nat) (t : Text) : Option Nat :=
  if (pieces (byte '_') t).all (· ≠ []) then digits? base (t.filter (· ≠ byte '_')) else none

/-- What follows one of two bytes at the start of a text. -/
def afterLetter? (lower upper : Char) : Text → Option Text
  | [] => none
  | b :: rest => if b = byte lower ∨ b = byte upper then some rest else none

/-- The value of digits after the mark of a base; an underscore may stand between the mark and the digits. -/
def marked? (lower upper : Char) (base : Nat) (t : Text) : Option Nat :=
  (afterLetter? lower upper t).bind fun ds => groupedDigits? base ((dropStart? ds "_").getD ds)

/-- A number without sign. -/
def magnitude? (t : Text) : Option Nat :=
  match dropStart? t "0" with
  | none => groupedDigits? 10 t
  | some [] => some 0
  | some rest =>
    (marked? 'x' 'X' 16 rest).or <| (marked? 'b' 'B' 2 rest).or <| (marked? 'o' 'O' 8 rest).or <|
      groupedDigits? 8 ((dropStart? rest "_").getD rest)

/-- An integer with or without sign, if it fits in 64 bits. -/
def integer? (t : Text) : Option Int :=
  let negative := startsWith t "-"
  let body := if negative ∨ startsWith t "+" then t.drop 1 else t
  (magnitude? body).bind fun n => Word.ofInt? (if negative then -(n : Int) else n)

/-- A truth value as a word, a letter or a digit. -/
def truth? (t : Text) : Option Bool :=
  if ["1", "t", "T", "TRUE", "true", "True"].any fun w => ofString w = t then some true
  else if ["0", "f", "F", "FALSE", "false", "False"].any fun w => ofString w = t then some false
  else none

end Literate.Text
