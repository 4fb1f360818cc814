import Literate.Text.Basic

/-!
# Base 64

Three bytes are written as four digits of six bits each. A last group of one or two bytes is filled up with equals signs.
-/

namespace Literate.Text

/-- The digit for a number below 64. -/
def sixBits (n : Nat) : UInt8 :=
  if n < 26 then byte 'A' + n.toUInt8
  else if n < 52 then byte 'a' + (n - 26).toUInt8
  else if n < 62 then byte '0' + (n - 52).toUInt8
  else if n = 62 then byte '+'
  else byte '/'

/-- The number of a digit. -/
def sixBits? (b : UInt8) : Option Nat :=
  if byte 'A' ≤ b ∧ b ≤ byte 'Z' then some (b - byte 'A').toNat
  else if byte 'a' ≤ b ∧ b ≤ byte 'z' then some ((b - byte 'a').toNat + 26)
  else if byte '0' ≤ b ∧ b ≤ byte '9' then some ((b - byte '0').toNat + 52)
  else if b = byte '+' then some 62
  else if b = byte '/' then some 63
  else none

/-- Bytes in base 64. -/
def toBase64 : Text → Text
  | [] => []
  | [a] =>
    let n := a.toNat * 16
    [sixBits (n / 64), sixBits (n % 64), byte '=', byte '=']
  | [a, b] =>
    let n := a.toNat * 1024 + b.toNat * 4
    [sixBits (n / 4096), sixBits (n / 64 % 64), sixBits (n % 64), byte '=']
  | a :: b :: c :: rest =>
    let n := a.toNat * 65536 + b.toNat * 256 + c.toNat
    [sixBits (n / 262144), sixBits (n / 4096 % 64), sixBits (n / 64 % 64), sixBits (n % 64)] ++ toBase64 rest

/-- The bytes of groups of four digits up to the first that is none, and whether no other follows. Only the last group may
be filled up. -/
def groups : Text → Text × Bool
  | [] => ([], true)
  | a :: b :: 61 :: 61 :: rest =>
    match sixBits? a, sixBits? b with
    | some a, some b => ([(a * 4 + b / 16).toUInt8], rest = [])
    | _, _ => ([], false)
  | a :: b :: c :: 61 :: rest =>
    match sixBits? a, sixBits? b, sixBits? c with
    | some a, some b, some c =>
      let n := a * 4096 + b * 64 + c
      ([(n / 1024).toUInt8, (n / 4).toUInt8], rest = [])
    | _, _, _ => ([], false)
  | a :: b :: c :: d :: rest =>
    match sixBits? a, sixBits? b, sixBits? c, sixBits? d with
    | some a, some b, some c, some d =>
      let n := a * 262144 + b * 4096 + c * 64 + d
      let (bytes, isWhole) := groups rest
      ([(n / 65536).toUInt8, (n / 256).toUInt8, n.toUInt8] ++ bytes, isWhole)
    | _, _, _, _ => ([], false)
  | _ => ([], false)

/-- The groups of a text in base 64, in which line breaks are passed over. -/
def groupsOf (t : Text) : Text × Bool := groups (t.filter fun b => b ≠ byte '\n' && b ≠ byte '\r')

/-- The bytes that a text in base 64 stands for. -/
def ofBase64? (t : Text) : Option Text := if (groupsOf t).2 then some (groupsOf t).1 else none

/-- The bytes that the start of a text stands for, as far as it is in base 64. -/
def base64Start (t : Text) : Text := (groupsOf t).1

end Literate.Text
