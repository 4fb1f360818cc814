import Literate.Text.Basic

/-!
# Decimal text of floating-point numbers

A finite binary64 number is written with the fewest decimal digits that still round to it; of several such digit
sequences the one nearest to the number is taken. `Decimal.ofBits` finds the digits in exact arithmetic, and `fixed`,
`scientific` and `general` are three ways to write them.
-/

namespace Literate

open Text

/-- The decimal number `0.digits · 10 ^ point`, with a sign. The digits do not end with a zero. -/
structure Decimal where
  negative : Bool
  digits : List Nat
  point : Int

/-- A binary64 number, read from its bits. -/
inductive Number where
  | nan
  | infinite (negative : Bool)
  | finite (d : Decimal)

namespace Decimal

/-- The number of decimal digits of a natural number. -/
def digitCount (n : Nat) : Nat := (Nat.toDigits 10 n).length

/-- The decimal exponent of the positive rational `num / den`: the largest `e` with `10 ^ e ≤ num / den`. -/
def exponentOf (num den : Nat) : Int :=
  if den ≤ num then digitCount (num / den) - 1 else -(digitCount ((den + num - 1) / num - 1) : Int)

/-- The positive rationals that round to a number: the number itself, and the ends of the interval around it, over a
common denominator. -/
structure Rounding where
  value : Nat
  low : Nat
  high : Nat
  den : Nat
  /-- Whether the ends belong to the interval. -/
  closed : Bool

/-- The interval of a number `mantissa · 2 ^ exponent`; below a power of two the numbers lie closer. -/
def Rounding.of (mantissa : Nat) (exponent : Int) (power : Bool) : Rounding :=
  let scale := Nat.pow 2 (exponent - 2).toNat
  { value := 4 * mantissa * scale
    low := (if power then 4 * mantissa - 1 else 4 * mantissa - 2) * scale
    high := (4 * mantissa + 2) * scale
    den := Nat.pow 2 (2 - exponent).toNat
    closed := mantissa % 2 == 0 }

/-- Whether the decimal `n · 10 ^ e` rounds to the number. -/
def Rounding.admits (r : Rounding) (n : Nat) (e : Int) : Bool :=
  let x := n * Nat.pow 10 e.toNat * r.den
  let unit := Nat.pow 10 (-e).toNat
  if r.closed then r.low * unit ≤ x && x ≤ r.high * unit else r.low * unit < x && x < r.high * unit

/-- The multiple of `10 ^ e` that rounds to the number, the nearer one of two. -/
def Rounding.atGrid (r : Rounding) (e : Int) : Option Nat :=
  let num := r.value * Nat.pow 10 (-e).toNat
  let den := r.den * Nat.pow 10 e.toNat
  let below := num / den
  let nearer := if 2 * (num % den) ≤ den then [below, below + 1] else [below + 1, below]
  nearer.find? (r.admits · e)

/-- The digits of the first grid, from `digits` digits on, on which a decimal rounds to the number. -/
def Rounding.search (r : Rounding) (exponent : Int) : (tries digits : Nat) → Nat × Int
  | 0, _ => (0, 0)
  | tries + 1, digits =>
    let e := exponent + 1 - digits
    match r.atGrid e with
    | some n => (n, e)
    | none => r.search exponent tries (digits + 1)

/-- The digits of a natural number without the zeros at its end. -/
def significant (n : Nat) : List Nat :=
  (((Nat.toDigits 10 n).map fun c => c.toNat - 48).reverse.dropWhile (· == 0)).reverse

/-- The shortest decimal of a positive number `mantissa · 2 ^ exponent`. -/
def shortest (negative : Bool) (mantissa : Nat) (exponent : Int) (power : Bool) : Decimal :=
  let r := Rounding.of mantissa exponent power
  let (n, e) := r.search (exponentOf r.value r.den) 17 1
  { negative, digits := significant n, point := digitCount n + e }

/-- The number with the given bits. -/
def ofBits (bits : UInt64) : Number :=
  let n := bits.toNat
  let negative := n / Nat.pow 2 63 == 1
  let biased : Nat := n / Nat.pow 2 52 % 2048
  let fraction : Nat := n % Nat.pow 2 52
  if biased == 2047 then if fraction == 0 then .infinite negative else .nan
  else if biased == 0 then
    if fraction == 0 then .finite ⟨negative, [], 0⟩ else .finite (shortest negative fraction (-1074) false)
  else .finite (shortest negative (Nat.pow 2 52 + fraction) (Int.ofNat biased - 1075) (fraction == 0 && biased > 1))

/-! ## Reading decimals -/

/-- The floating-point number nearest to `digits · 10 ^ exponent`. Beyond the two bounds it is zero or infinite whatever
the digits are. -/
def toFloat (digits : Nat) (exponent : Int) : Float :=
  if digits = 0 ∨ exponent < -(400 + digitCount digits : Int) then 0.0
  else if 400 < exponent then 1.0 / 0.0
  else if 0 ≤ exponent then Float.ofScientific (digits * Nat.pow 10 exponent.toNat) false 0
  else Float.ofScientific digits true exponent.natAbs

/-- The integer nearest to the finite number with the given bits; of two the even one. -/
def roundedBits (bits : UInt64) : Int :=
  let n := bits.toNat
  let biased : Nat := n / Nat.pow 2 52 % 2048
  let mantissa : Nat := if biased = 0 then n % Nat.pow 2 52 else Nat.pow 2 52 + n % Nat.pow 2 52
  let exponent : Int := Int.ofNat (Nat.max biased 1) - 1075
  let den := Nat.pow 2 (-exponent).toNat
  let num := mantissa * Nat.pow 2 exponent.toNat
  let down := num / den
  let twice := 2 * (num % den)
  let near := if den < twice ∨ (twice = den ∧ down % 2 = 1) then down + 1 else down
  if n / Nat.pow 2 63 = 1 then -(near : Int) else near

/-! ## Writing decimals -/

/-- The minus sign of a negative number. -/
def sign (d : Decimal) : Text := onlyIf d.negative "-"

/-- Digits as text. -/
def digitText (ds : List Nat) : Text := ds.map fun n => byte '0' + n.toUInt8

/-- The number without an exponent. -/
def fixed (d : Decimal) : Text :=
  d.sign ++
    if d.digits.isEmpty then ofString "0"
    else if d.point ≤ 0 then "0." ++ List.replicate (-d.point).toNat (byte '0') ++ digitText d.digits
    else
      let n := d.point.toNat
      if d.digits.length ≤ n then digitText d.digits ++ List.replicate (n - d.digits.length) (byte '0')
      else digitText (d.digits.take n) ++ "." ++ digitText (d.digits.drop n)

/-- The number with one digit before the point and an exponent of at least `width` digits. -/
def scientific (d : Decimal) (width : Nat) : Text :=
  let exponent : Int := if d.digits.isEmpty then 0 else d.point - 1
  let digits := ofNat exponent.natAbs
  d.sign ++
    (match d.digits with
      | [] => "0"
      | [n] => digitText [n]
      | n :: rest => digitText [n] ++ "." ++ digitText rest) ++
    "e" ++ (if exponent < 0 then "-" else "+") ++ List.replicate (width - digits.length) (byte '0') ++ digits

/-- The number without an exponent from `10 ^ -4` up to `10 ^ 6`, and with one of two digits or more elsewhere. -/
def general (d : Decimal) : Text :=
  let exponent := d.point - 1
  if exponent < -4 ∨ exponent ≥ 6 then d.scientific 2 else d.fixed

/-- The number without an exponent from `10 ^ -6` up to `10 ^ 21`, and with one elsewhere. -/
def plain (d : Decimal) : Text :=
  let exponent := d.point - 1
  if !d.digits.isEmpty ∧ (exponent < -6 ∨ exponent ≥ 21) then d.scientific 1 else d.fixed

end Decimal

/-- A number in its general form. -/
def Number.general : Number → Text
  | .nan => "NaN"
  | .infinite negative => if negative then "-Inf" else "+Inf"
  | .finite d => d.general

end Literate
