import Literate.Text.Symbol
import Literate.Unicode.Category

/-!
# Quoted text

A quoted text stands between double quotes. The quote and the backslash are escaped by a backslash, characters that are
not printable are written as escapes, and so is every byte that is no character.
-/

namespace Literate.Text

/-- A hexadecimal digit. -/
def hexDigit (n : Nat) : UInt8 := if n < 10 then byte '0' + n.toUInt8 else byte 'a' + (n - 10).toUInt8

/-- The last `digits` hexadecimal digits of a number. -/
def hex : (digits : Nat) → Nat → Text
  | 0, _ => []
  | digits + 1, n => hex digits (n / 16) ++ [hexDigit (n % 16)]

/-- The letter that stands for a control character after a backslash. -/
def escapeLetter? (c : Char) : Option Char :=
  match c.toNat with
  | 7 => some 'a'
  | 8 => some 'b'
  | 9 => some 't'
  | 10 => some 'n'
  | 11 => some 'v'
  | 12 => some 'f'
  | 13 => some 'r'
  | _ => none

/-- How a character is written between quotes. -/
def escape (r : Symbol) : Text :=
  if r.isBroken then "\\x" ++ r.bytes.flatMap fun b => hex 2 b.toNat
  else if r.char = '"' then "\\\""
  else if r.char = '\\' then "\\\\"
  else if Unicode.isPrintable r.char then r.bytes
  else match escapeLetter? r.char with
    | some l => [byte '\\', byte l]
    | none =>
      let n := r.char.toNat
      if n < 0x80 then "\\x" ++ hex 2 n
      else if n < 0x10000 then "\\u" ++ hex 4 n
      else "\\U" ++ hex 8 n

/-- The text between double quotes. -/
def quote (t : Text) : Text := "\"" ++ (symbols t).flatMap escape ++ "\""

end Literate.Text
