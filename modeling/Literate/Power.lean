/-!
# Powers of floating-point numbers

`power x y` is `x` to the power of `y`. The whole part of the exponent is taken by squaring the mantissa of `x`, so that
the rounding of every product shows in the result; only the rest of the exponent goes through the logarithm.
-/

namespace Literate

/-- Whether a floating-point number is an odd integer. -/
def isOdd (x : Float) : Bool := x.abs < 9007199254740992.0 && x.floor == x && x.abs.toUInt64 % 2 == 1

/-- Infinity. -/
def infinity : Float := 1.0 / 0.0

/-- What squaring the mantissa comes to: the product so far and the square to be multiplied next, each a mantissa with an
exponent of two. Beyond exponents of 4096 the rest does not matter. -/
def squarings : (steps : Nat) → (n : Nat) → (product : Float) → (exponent : Int) → (square : Float) → (scale : Int) →
    Float × Int
  | 0, _, product, exponent, _, _ => (product, exponent)
  | steps + 1, n, product, exponent, square, scale =>
    if n = 0 then (product, exponent)
    else if scale < -4096 ∨ 4096 < scale then (product, exponent + scale)
    else
      let (product, exponent) := if n % 2 = 1 then (product * square, exponent + scale) else (product, exponent)
      let square := square * square
      let scale := scale * 2
      let (square, scale) := if square < 0.5 then (square + square, scale - 1) else (square, scale)
      squarings steps (n / 2) product exponent square scale

/-- A finite number that is neither zero nor one, to a finite power that is neither zero nor one. -/
def ordinaryPower (x y : Float) : Float :=
  let whole := y.abs.floor
  let rest := y.abs - whole
  if rest != 0 && x < 0 then 0.0 / 0.0
  else if 9223372036854775808.0 ≤ whole then
    if x == -1 then 1 else if (x.abs < 1) == (y > 0) then 0 else infinity
  else
    let (rest, whole) := if rest > 0.5 then (rest - 1, whole + 1) else (rest, whole)
    let start := if rest != 0 then Float.exp (rest * Float.log x) else 1
    let (mantissa, exponent) := x.frExp
    let (product, exponent) := squarings 64 whole.toUInt64.toNat start 0 mantissa exponent
    if y < 0 then (1 / product).scaleB (-exponent) else product.scaleB exponent

/-- `x` to the power of `y`. -/
def power (x y : Float) : Float :=
  let negativeZero := x == 0 && 1 / x < 0
  if y == 0 || x == 1 then 1
  else if y == 1 then x
  else if x.isNaN || y.isNaN then 0.0 / 0.0
  else if x == 0 then
    if y < 0 then if negativeZero && isOdd y then -infinity else infinity
    else if negativeZero && isOdd y then x else 0
  else if y.isInf then
    if x == -1 then 1 else if (x.abs < 1) == (y > 0) then 0 else infinity
  else if x.isInf then
    let size := if y < 0 then 0.0 else infinity
    if x < 0 && isOdd y then -size else size
  else if y == 0.5 then x.sqrt
  else if y == -0.5 then 1 / x.sqrt
  else ordinaryPower x y

end Literate
