import Literate.Decimal
import Literate.Text.Digits

/-!
# Reading floating-point numbers

A number is written in decimal, with or without a point and an exponent, or in base sixteen after `0x`, where the exponent
is one of two, starts with `p` and has to be there. Underscores may stand between digits. Infinity and what is not a
number are written as words.
-/

namespace Literate.Decimal

open Text

/-- The floating-point number nearest to `mantissa · 2 ^ exponent`; of two the even one. -/
def ofBinary (mantissa : Nat) (exponent : Int) : Float :=
  let size : Int := Nat.log2 mantissa + 1
  if mantissa = 0 ∨ size + exponent < -1074 then 0.0
  else if 1024 < size + exponent then 1.0 / 0.0
  else
    let place : Int := if size + exponent - 53 < -1074 then -1074 else size + exponent - 53
    if place ≤ exponent then (Float.ofNat (mantissa * Nat.pow 2 (exponent - place).toNat)).scaleB place
    else
      let unit := Nat.pow 2 (place - exponent).toNat
      let down := mantissa / unit
      let twice := 2 * (mantissa % unit)
      let near := if unit < twice ∨ (twice = unit ∧ down % 2 = 1) then down + 1 else down
      (Float.ofNat near).scaleB place

/-- Whether every underscore stands between digits; the mark of base sixteen counts as a digit. -/
def isGrouped (hex : Bool) (t : Text) : Bool :=
  let digit := fun (b : UInt8) => isDigit b || (hex && (digitValue? b).isSome)
  let rec alternates : (afterDigit : Bool) → Text → Bool
    | _, [] => true
    | afterDigit, b :: rest =>
      if b = byte '_' then afterDigit && (rest.head?.any digit) && alternates false rest
      else alternates (digit b) rest
  alternates hex t

/-- The exponent of a number: digits after a letter and an optional sign, and nothing more. -/
def exponent? (t : Text) : Option Int :=
  let negative := startsWith t "-"
  let ds := if negative ∨ startsWith t "+" then t.drop 1 else t
  if ds.head?.all isDigit then
    (digits? 10 (ds.filter (· ≠ byte '_'))).map fun n => if negative then -(n : Int) else n
  else none

/-- A number without sign, in base ten or sixteen. Digits that are not there count as none, but there has to be one. -/
def magnitude? (hex : Bool) (t : Text) : Option Float := do
  let base := if hex then 16 else 10
  let digit := fun (b : UInt8) => b = byte '_' || isDigit b || (hex && (digitValue? b).isSome)
  let whole := t.takeWhile digit
  let rest := t.drop whole.length
  let fraction := (((dropStart? rest ".").map (·.takeWhile digit)).getD [])
  let rest := ((dropStart? rest ".").map (·.drop fraction.length)).getD rest
  let plain := fun (ds : Text) => ds.filter (· ≠ byte '_')
  let digits ← digits? base (plain whole ++ plain fraction)
  let places : Int := (plain fraction).length
  if isGrouped hex t then
    if hex then
      let e ← (afterLetter? 'p' 'P' rest).bind exponent?
      return ofBinary digits (e - 4 * places)
    else
      let e ← if rest = [] then some 0 else (afterLetter? 'e' 'E' rest).bind exponent?
      return toFloat digits (e - places)
  else none

/-- A text with its ASCII letters in lower case. -/
def asciiLower (t : Text) : Text := t.map fun b => if byte 'A' ≤ b ∧ b ≤ byte 'Z' then b + 32 else b

/-- The number that a word stands for: infinity with a sign or without, or what is no number. -/
def special? (t : Text) : Option Float :=
  let negative := startsWith t "-"
  let word := asciiLower (if negative ∨ startsWith t "+" then t.drop 1 else t)
  if word = ("inf" : Text) ∨ word = ("infinity" : Text) then some (if negative then -(1.0 / 0.0) else 1.0 / 0.0)
  else if asciiLower t = ("nan" : Text) then some (0.0 / 0.0)
  else none

/-- The floating-point number nearest to the one that digits stand for. -/
def ofDigits? (t : Text) : Option Float :=
  let negative := startsWith t "-"
  let body := if negative ∨ startsWith t "+" then t.drop 1 else t
  let hex := 2 < body.length ∧ startsWith (asciiLower body) "0x"
  (magnitude? hex (if hex then body.drop 2 else body)).map fun x => if negative then -x else x

/-- Reads a floating-point number; one that is too large is infinite. -/
def nearest? (t : Text) : Option Float := (special? t).or (ofDigits? t)

/-- Reads a floating-point number; one that is too large is none. -/
def read? (t : Text) : Option Float := (special? t).or ((ofDigits? t).filter (·.isFinite))

end Literate.Decimal
