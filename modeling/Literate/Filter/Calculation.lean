import Literate.Filter.Lookup
import Literate.Log.Moment
import Literate.Power
import Literate.Regex.Parser

/-!
# Operations on values

What operators come to, and the aggregates of numbers. An operation on values that it cannot be applied to has no result.
-/

namespace Literate.Filter.Value

open Text

/-! ## Arithmetic -/

/-- An operation on two numbers: integers stay integers of 64 bits, and otherwise both are floating-point numbers. -/
def arith? (onInts : Int → Int → Int) (onFloats : Float → Float → Float) (a b : Value) : Option Value :=
  match a.integer?, b.integer? with
  | some m, some n => some (int (Word.wrap (onInts m n)))
  | _, _ => do return float (onFloats (← a.float?) (← b.float?))

/-- A sum. -/
def add? (a b : Value) : Option Value :=
  match a, b with
  | text s, text t => some (text (s ++ t))
  | time t, duration n | duration n, time t => some (time (t.after n))
  | duration m, duration n => some (duration (Word.wrap (m + n)))
  | _, _ => arith? (· + ·) (· + ·) a b

/-- A difference. -/
def sub? (a b : Value) : Option Value :=
  match a, b with
  | time t, time u => some (duration (t.since u))
  | time t, duration n => some (time (t.after (-n)))
  | duration m, duration n => some (duration (Word.wrap (m - n)))
  | _, _ => arith? (· - ·) (· - ·) a b

/-- A product. -/
def mul? (a b : Value) : Option Value :=
  match a, b with
  | duration m, duration n => some (duration (Word.wrap (m * n)))
  | duration m, float x => some (float (Float.ofInt m * x))
  | float x, duration n => some (float (x * Float.ofInt n))
  | duration m, b => b.integer?.map fun n => duration (Word.wrap (m * n))
  | a, duration n => a.integer?.map fun m => duration (Word.wrap (m * n))
  | _, _ => arith? (· * ·) (· * ·) a b

/-- The remainder of a division, which has the sign of the dividend; a divisor of zero has none. -/
def mod? (a b : Value) : Option Value := do
  let m ← a.integer?
  let n ← b.integer?
  if n = 0 then none else return int (Word.wrap (m.tmod n))

/-- The negative of a number. -/
def negate? : Value → Option Value
  | int n => some (int (Word.wrap (-n)))
  | long n => some (long (Word.wrap (-n)))
  | byte n => some (byte ((256 - n) % 256))
  | float x => some (float (-x))
  | _ => none

/-! ## Texts -/

/-- A question about two texts; of nothing it is false. -/
def ask? (question : Text → Text → Option Bool) (a b : Value) : Option Value :=
  if a.isNil || b.isNil then some (bool false) else do return bool (← question (← a.text?) (← b.text?))

/-- Whether a pattern occurs in a text, unless it is not well-formed. -/
def matches? (t pattern : Text) : Option Bool := (Regex.parse? pattern).map (·.occursIn t)

/-- The value of an operation on two values. -/
def operate? (op : BinaryOp) (a b : Value) : Option Value :=
  match op with
  | .eq => some (bool (a.plain.same b.plain))
  | .ne => some (bool !(a.plain.same b.plain))
  | .lt => (a.less? b).map bool
  | .gt => (b.less? a).map bool
  | .le => (a.notAfter? b).map bool
  | .ge => (b.notAfter? a).map bool
  | .within => (a.within? b).map bool
  | .matching => ask? matches? a b
  | .containing => ask? (fun s t => some (includes s t)) a b
  | .starting => ask? (fun s t => some (startsWith s t)) a b
  | .ending => ask? (fun s t => some (endsWith s t)) a b
  | .add => add? a b
  | .sub => sub? a b
  | .mul => mul? a b
  | .div => do return float ((← a.float?) / (← b.float?))
  | .pow _ => do return float (power (← a.float?) (← b.float?))
  | .mod => mod? a b
  | .or _ | .and _ | .range | .coalesce => none

/-! ## Aggregates -/

mutual

/-- How many lists stand around the innermost things in a value, or around its innermost lists. -/
def depth (listsOnly : Bool) : Value → Nat
  | list _ _ vs => depthAll listsOnly vs
  | _ => 0

/-- The largest depth of values in a list, counted from outside of it. -/
def depthAll (listsOnly : Bool) : List Value → Nat
  | [] => 0
  | v :: vs =>
    let here := if listsOnly && v.items?.isNone then 0 else v.depth listsOnly + 1
    let rest := depthAll listsOnly vs
    if rest < here then here else rest

end

/-- The largest depth of lists whose numbers can be taken together, or that can be made one. -/
def maxDepth : Nat := 10000

/-- Whether a value is a number of any sort but a measure of time. -/
def isPlainNumber (v : Value) : Bool := v.float?.isSome

/-- The better of a value and the best so far, if they can be compared. -/
def best? (better : Value → Value → Option Bool) (best : Option Value) (v : Value) : Option (Option Value) :=
  match best with
  | none => some (some v)
  | some b => (better b v).map fun yes => some (if yes then v else b)

mutual

/-- The best number of a list and of the lists within it; a value that is no list is its own. -/
def bestOf? (better : Value → Value → Option Bool) : Value → Option Value
  | list _ _ vs => (bestItem? better none vs).map fun best => best.getD nil
  | v => some v

/-- The best number among the items of a list, after the best one so far. -/
def bestItem? (better : Value → Value → Option Bool) (best : Option Value) : List Value → Option (Option Value)
  | [] => some best
  | v :: vs => do
    let n ← bestOf? better v
    if n.isPlainNumber then bestItem? better (← best? better best n) vs else none

end

/-- The best of values and of the numbers in lists among them. A single value that is neither is the best. -/
def extreme? (better : Value → Value → Option Bool) (single : Bool) (best : Option Value) : List Value → Option Value
  | [] => some (best.getD nil)
  | v :: vs =>
    match v with
    | list _ _ items => do extreme? better single (← bestItem? better best items) vs
    | v =>
      if v.count?.isSome then do extreme? better single (← best? better best v) vs
      else if single then some v else none

mutual

/-- How many numbers a value holds, and their sum; those of a list within a list are added up first. -/
def sumOf? : Value → Option (Nat × Float)
  | list _ _ vs => sumAll? (0, 0) vs
  | float x => some (1, 0 + x)
  | v => v.count?.map fun n => (1, 0 + Float.ofInt n)

/-- How many numbers values hold, and their sum, after those before them. -/
def sumAll? (before : Nat × Float) : List Value → Option (Nat × Float)
  | [] => some before
  | v :: vs => do
    let (n, x) ← sumOf? v
    sumAll? (before.1 + n, before.2 + x) vs

end

mutual

/-- The numbers that a value holds. -/
def numbers? : Value → Option (List Float)
  | list _ _ vs => numbersAll? vs
  | float x => some [x]
  | v => v.count?.map fun n => [Float.ofInt n]

/-- The numbers that values hold. -/
def numbersAll? : List Value → Option (List Float)
  | [] => some []
  | v :: vs => do return (← numbers? v) ++ (← numbersAll? vs)

end

/-- The mean of numbers. -/
def mean? (args : List Value) : Option Value :=
  (sumAll? (0, 0) args).map fun (n, x) => float (if n = 0 then 0 else x / Float.ofNat n)

/-- The number in the middle, or the mean of the two there. -/
def median? (args : List Value) : Option Value := do
  let xs := ((← numbersAll? args).mergeSort fun x y => x ≤ y || x.isNaN).toArray
  let n := xs.size
  return float (if n = 0 then 0 else if n % 2 = 1 then xs.getD (n / 2) 0
    else (xs.getD (n / 2 - 1) 0 + xs.getD (n / 2) 0) / 2)

end Literate.Filter.Value
