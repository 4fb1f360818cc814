import Literate.Proofs.Numerals
import Mathlib.Algebra.Order.Field.Power
import Mathlib.Tactic.Linarith
import Mathlib.Tactic.NormNum
import Mathlib.Tactic.Positivity

/-!
# The decimals of floating-point numbers

The digits that are found for a floating-point number are enough: of all floating-point numbers, none is nearer to the
decimal than the number that the digits are for, and if another is as near, then this one is even (`roundsTo_ofBits`).
-/

namespace Literate

open Text

/-! ## Floating-point numbers -/

namespace Binary

/-- The significand and the binary exponent of a floating-point number. -/
def parts (bits : UInt64) : Nat × Int :=
  let biased : Nat := bits.toNat / 2 ^ 52 % 2048
  let fraction : Nat := bits.toNat % 2 ^ 52
  if biased = 0 then (fraction, -1074) else (2 ^ 52 + fraction, (biased : Int) - 1075)

/-- Whether the number is neither infinite nor no number at all. -/
def isFinite (bits : UInt64) : Bool := bits.toNat / 2 ^ 52 % 2048 ≠ 2047

/-- Whether the number has a minus sign. -/
def isNegative (bits : UInt64) : Bool := bits.toNat / 2 ^ 63 = 1

/-- What a floating-point number is without its sign. -/
def magnitude (bits : UInt64) : ℚ := (parts bits).1 * 2 ^ (parts bits).2

/-- What a floating-point number is. -/
def value (bits : UInt64) : ℚ := (if isNegative bits then -1 else 1) * magnitude bits

/-- A number is rounded to a floating-point number: no other one is nearer, and if one is as near, then the significand
of this one is even. -/
def RoundsTo (q : ℚ) (bits : UInt64) : Prop :=
  ∀ other, isFinite other → value other ≠ value bits →
    |q - value bits| ≤ |q - value other| ∧ (|q - value bits| = |q - value other| → (parts bits).1 % 2 = 0)

/-- What significands and exponents of floating-point numbers have in common. -/
structure Normal (m : Nat) (x : Int) : Prop where
  small : m < 2 ^ 53
  least : -1074 ≤ x
  /-- Only the least exponent goes with small significands. -/
  large : x = -1074 ∨ 2 ^ 52 ≤ m

section Gaps

variable {m m' : Nat} {x x' : Int}

theorem normal_parts (bits : UInt64) : Normal (parts bits).1 (parts bits).2 := by
  have hfraction : bits.toNat % 2 ^ 52 < 2 ^ 52 := Nat.mod_lt _ (by decide)
  simp only [parts]
  split
  · exact ⟨by simp only; omega, by simp, .inl rfl⟩
  · exact ⟨by simp only; omega, by simp only; omega, .inr (by simp)⟩

theorem zpow_le_zpow_two (h : x ≤ x') : (2 : ℚ) ^ x ≤ 2 ^ x' := zpow_le_zpow_right₀ (by norm_num) h

/-- A number with a smaller exponent is less than all that are not small. -/
theorem lt_of_exponent_lt (h : Normal m x) (h' : Normal m' x') (hx : x' < x) :
    (m' : ℚ) * 2 ^ x' ≤ 2 ^ 52 * 2 ^ x - 2 ^ (x - 1) ∧ (2 : ℚ) ^ 52 ≤ m := by
  have hsmall : (m' : ℚ) ≤ 2 ^ 53 - 1 := by
    have hle : m' + 1 ≤ 2 ^ 53 := h'.small
    have hcast : ((m' + 1 : Nat) : ℚ) ≤ ((2 ^ 53 : Nat) : ℚ) := Nat.cast_le.mpr hle
    push_cast at hcast
    linarith
  constructor
  · have hpow : (2 : ℚ) ^ x = 2 * 2 ^ (x - 1) := by
      rw [zpow_sub_one₀ (by norm_num)]
      ring
    have hmul : (m' : ℚ) * 2 ^ x' ≤ (2 ^ 53 - 1) * 2 ^ (x - 1) :=
      mul_le_mul hsmall (zpow_le_zpow_two (by omega)) (by positivity) (by norm_num)
    rw [hpow]
    linarith
  · rcases h.large with hleast | hlarge
    · have hle := h'.least
      omega
    · exact_mod_cast hlarge

/-- The numbers above a floating-point number are at least one unit of its last place above it. -/
theorem gap_above (h : Normal m x) (h' : Normal m' x') (hlt : (m : ℚ) * 2 ^ x < m' * 2 ^ x') :
    (m : ℚ) * 2 ^ x + 2 ^ x ≤ m' * 2 ^ x' := by
  have hpos : (0 : ℚ) < 2 ^ x := by positivity
  rcases lt_or_ge x' x with hx | hx
  · obtain ⟨hle, hlarge⟩ := lt_of_exponent_lt h h' hx
    have hhalf : (0 : ℚ) < 2 ^ (x - 1) := by positivity
    have hmul : (2 : ℚ) ^ 52 * 2 ^ x ≤ m * 2 ^ x := mul_le_mul_of_nonneg_right hlarge hpos.le
    linarith
  · obtain ⟨k, rfl⟩ : ∃ k : Nat, x' = x + k := ⟨(x' - x).toNat, by omega⟩
    rw [zpow_add₀ (by norm_num), zpow_natCast] at hlt ⊢
    have hlt' : (m : ℚ) < (m' * 2 ^ k : Nat) := by
      refine lt_of_mul_lt_mul_right ?_ hpos.le
      push_cast
      linarith
    have hle : ((m + 1 : Nat) : ℚ) ≤ (m' * 2 ^ k : Nat) := Nat.cast_le.mpr (Nat.cast_lt.mp hlt')
    push_cast at hle
    have hmul := mul_le_mul_of_nonneg_right hle hpos.le
    linarith

/-- The numbers below are at least one unit below, or half a unit where the exponent becomes smaller. -/
theorem gap_below (h : Normal m x) (h' : Normal m' x') (hlt : (m' : ℚ) * 2 ^ x' < m * 2 ^ x) :
    (m' : ℚ) * 2 ^ x' ≤ m * 2 ^ x - if m = 2 ^ 52 ∧ -1074 < x then 2 ^ x / 2 else 2 ^ x := by
  have hpos : (0 : ℚ) < 2 ^ x := by positivity
  rcases lt_or_ge x' x with hx | hx
  · obtain ⟨hle, hlarge⟩ := lt_of_exponent_lt h h' hx
    have hhalf : (2 : ℚ) ^ (x - 1) = 2 ^ x / 2 := zpow_sub_one₀ (by norm_num) x
    split
    · obtain ⟨rfl, -⟩ := ‹m = 2 ^ 52 ∧ _›
      push_cast
      linarith
    · have hm : (2 : ℚ) ^ 52 + 1 ≤ m := by
        have hleast := h'.least
        have hne : m ≠ 2 ^ 52 := fun heq => ‹¬(m = 2 ^ 52 ∧ _)› ⟨heq, by omega⟩
        have hge : 2 ^ 52 ≤ m := by exact_mod_cast hlarge
        have hlt : 2 ^ 52 + 1 ≤ m := by omega
        exact_mod_cast hlt
      have hmul := mul_le_mul_of_nonneg_right hm hpos.le
      linarith
  · have hgap := gap_above h' h hlt
    have hunit : (2 : ℚ) ^ x ≤ 2 ^ x' := zpow_le_zpow_two hx
    split <;> linarith

/-- How far a number may lie below a floating-point number and be rounded to it. -/
def reach (m : Nat) (x : Int) : ℚ := if m = 2 ^ 52 ∧ -1074 < x then 2 ^ x / 4 else 2 ^ x / 2

/-- No floating-point number is nearer to a number within the reach of another. -/
theorem nearest {q : ℚ} (h : Normal m x) (h' : Normal m' x') (hne : (m' : ℚ) * 2 ^ x' ≠ m * 2 ^ x)
    (hlow : m * 2 ^ x - reach m x ≤ q) (hhigh : q ≤ m * 2 ^ x + 2 ^ x / 2) :
    |q - m * 2 ^ x| ≤ |q - m' * 2 ^ x'| ∧
    (m * 2 ^ x - reach m x < q → q < m * 2 ^ x + 2 ^ x / 2 → |q - m * 2 ^ x| < |q - m' * 2 ^ x'|) := by
  have hpos : (0 : ℚ) < 2 ^ x := by positivity
  rcases lt_or_gt_of_ne hne with hlt | hgt
  · have hgap : (m' : ℚ) * 2 ^ x' ≤ m * 2 ^ x - 2 * reach m x := by
      have hgap := gap_below h h' hlt
      rw [reach]
      split at hgap
      · rw [if_pos ‹_›]
        linarith
      · rw [if_neg ‹_›]
        linarith
    have habs := le_abs_self (q - m' * 2 ^ x')
    constructor
    · exact abs_le.mpr ⟨by linarith, by linarith⟩
    · intro hlow' hhigh'
      exact abs_lt.mpr ⟨by linarith, by linarith⟩
  · have hgap := gap_above h h' hgt
    have habs := neg_abs_le (q - m' * 2 ^ x')
    have hreach : reach m x ≤ 2 ^ x / 2 := by
      rw [reach]
      split <;> linarith
    constructor
    · exact abs_le.mpr ⟨by linarith, by linarith⟩
    · intro hlow' hhigh'
      exact abs_lt.mpr ⟨by linarith, by linarith⟩

end Gaps

end Binary

/-! ## Finding digits -/

namespace Decimal

open Binary

theorem zpow_eq_div {b : ℚ} (hb : b ≠ 0) (k : ℤ) : b ^ k = b ^ k.toNat / b ^ (-k).toNat := by
  rw [eq_div_iff (pow_ne_zero _ hb), ← zpow_natCast, ← zpow_natCast, ← zpow_add₀ hb]
  congr 1
  omega

section Search

variable {m : Nat} {x e : Int} {power : Bool} {n : Nat}

theorem ratio_le_iff {a d : Nat} (hd : 0 < d) :
    a * 10 ^ (-e).toNat ≤ n * 10 ^ e.toNat * d ↔ (a / d : ℚ) ≤ n * 10 ^ e := by
  rw [zpow_eq_div (by norm_num), mul_div_assoc', div_le_div_iff₀ (by exact_mod_cast hd) (by positivity)]
  exact_mod_cast Iff.rfl

theorem le_ratio_iff {a d : Nat} (hd : 0 < d) :
    n * 10 ^ e.toNat * d ≤ a * 10 ^ (-e).toNat ↔ (n * 10 ^ e : ℚ) ≤ a / d := by
  rw [zpow_eq_div (by norm_num), mul_div_assoc', div_le_div_iff₀ (by positivity) (by exact_mod_cast hd)]
  exact_mod_cast Iff.rfl

/-- The scale and the denominator of an interval make up a power of two. -/
theorem scale_div_den (x : Int) : (2 ^ (x - 2).toNat : ℚ) / 2 ^ (2 - x).toNat = 2 ^ x / 4 := by
  have hneg : -(x - 2) = 2 - x := by omega
  have hpow := zpow_eq_div (b := 2) (by norm_num) (x - 2)
  rw [hneg] at hpow
  rw [← hpow, zpow_sub₀ (by norm_num)]
  norm_num

theorem low_div_den (power : Bool) (hm : 0 < m) : ((Rounding.of m x power).low / (Rounding.of m x power).den : ℚ) =
    m * 2 ^ x - if power then 2 ^ x / 4 else 2 ^ x / 2 := by
  have hcast : ((if power then 4 * m - 1 else 4 * m - 2 : Nat) : ℚ) = 4 * m - if power then 1 else 2 := by
    cases power with
    | false =>
      simp only [Bool.false_eq_true, if_false]
      rw [Nat.cast_sub (by omega)]
      push_cast
      rfl
    | true =>
      simp only [if_true]
      rw [Nat.cast_sub (by omega)]
      push_cast
      rfl
  simp only [Rounding.of, Nat.pow_eq]
  rw [Nat.cast_mul, hcast, Nat.cast_pow, Nat.cast_pow, Nat.cast_ofNat, mul_div_assoc, scale_div_den]
  split <;> ring

theorem high_div_den (m : Nat) (x : Int) (power : Bool) :
    ((Rounding.of m x power).high / (Rounding.of m x power).den : ℚ) = m * 2 ^ x + 2 ^ x / 2 := by
  simp only [Rounding.of, Nat.pow_eq]
  rw [Nat.cast_mul, Nat.cast_pow, Nat.cast_pow, Nat.cast_ofNat, mul_div_assoc, scale_div_den]
  push_cast
  ring

theorem value_div_den (m : Nat) (x : Int) (power : Bool) :
    ((Rounding.of m x power).value / (Rounding.of m x power).den : ℚ) = m * 2 ^ x := by
  simp only [Rounding.of, Nat.pow_eq]
  rw [Nat.cast_mul, Nat.cast_pow, Nat.cast_pow, Nat.cast_ofNat, mul_div_assoc, scale_div_den]
  push_cast
  ring

theorem den_pos : 0 < (Rounding.of m x power).den := Nat.pow_pos (by decide)

/-- A decimal is admitted if it lies between the ends of the interval. -/
theorem admits_iff (hm : 0 < m) : (Rounding.of m x power).admits n e ↔
    let low : ℚ := m * 2 ^ x - if power then 2 ^ x / 4 else 2 ^ x / 2
    let high : ℚ := m * 2 ^ x + 2 ^ x / 2
    if m % 2 = 0 then low ≤ n * 10 ^ e ∧ n * 10 ^ e ≤ high else low < n * 10 ^ e ∧ n * 10 ^ e < high := by
  have hclosed : (Rounding.of m x power).closed = (m % 2 == 0) := rfl
  simp only [Rounding.admits, hclosed, beq_iff_eq, Nat.pow_eq, ← low_div_den power hm,
    ← high_div_den m x power]
  split
  · rw [Bool.and_eq_true, decide_eq_true_eq, decide_eq_true_eq, ratio_le_iff den_pos, le_ratio_iff den_pos]
  · rw [Bool.and_eq_true, decide_eq_true_eq, decide_eq_true_eq, ← not_le, ← not_le, le_ratio_iff den_pos,
      ratio_le_iff den_pos, not_le, not_le]

/-- A decimal strictly between the ends is admitted, whether these belong to the interval or not. -/
theorem admits_of_lt (hm : 0 < m) (hlow : (m * 2 ^ x - if power then 2 ^ x / 4 else 2 ^ x / 2 : ℚ) < n * 10 ^ e)
    (hhigh : (n * 10 ^ e : ℚ) < m * 2 ^ x + 2 ^ x / 2) : (Rounding.of m x power).admits n e := by
  rw [admits_iff hm]
  simp only
  split
  · exact ⟨hlow.le, hhigh.le⟩
  · exact ⟨hlow, hhigh⟩

/-- On a grid that is finer than the interval is wide, a decimal is found. -/
theorem isSome_atGrid (hm : 0 < m) (hfine : (10 : ℚ) ^ e < if power then 3 * 2 ^ x / 4 else 2 ^ x) :
    ((Rounding.of m x power).atGrid e).isSome := by
  have hpos : (0 : ℚ) < 2 ^ x := by positivity
  have hgrid : (0 : ℚ) < 10 ^ e := by positivity
  have hden : 0 < (Rounding.of m x power).den * 10 ^ e.toNat := Nat.mul_pos den_pos (Nat.pow_pos (by decide))
  simp only [Rounding.atGrid, Nat.pow_eq]
  generalize hk : (Rounding.of m x power).value * 10 ^ (-e).toNat / ((Rounding.of m x power).den * 10 ^ e.toNat) = k
  -- The two multiples next to the number lie on both sides of it.
  have hbelow : (k * 10 ^ e : ℚ) ≤ m * 2 ^ x := by
    rw [← value_div_den m x power, ← le_ratio_iff den_pos, mul_assoc, mul_comm (10 ^ e.toNat), ← hk]
    exact Nat.div_mul_le_self _ _
  have habove : (m * 2 ^ x : ℚ) < (k + 1 : Nat) * 10 ^ e := by
    rw [← value_div_den m x power, ← not_le, ← le_ratio_iff den_pos, mul_assoc, mul_comm (10 ^ e.toNat), not_le, ← hk]
    exact Nat.lt_mul_of_div_lt (Nat.lt_succ_self _) hden
  have hone : (Rounding.of m x power).admits k e ∨ (Rounding.of m x power).admits (k + 1) e := by
    by_contra hnone
    obtain ⟨hfirst, hsecond⟩ := not_or.mp hnone
    have hlow : (k * 10 ^ e : ℚ) ≤ m * 2 ^ x - if power then 2 ^ x / 4 else 2 ^ x / 2 := by
      by_contra hlt
      exact hfirst (admits_of_lt hm (not_le.mp hlt) (by linarith))
    have hhigh : (m * 2 ^ x + 2 ^ x / 2 : ℚ) ≤ (k + 1 : Nat) * 10 ^ e := by
      by_contra hlt
      refine hsecond (admits_of_lt hm ?_ (not_le.mp hlt))
      have hreach : (0 : ℚ) ≤ if power then 2 ^ x / 4 else 2 ^ x / 2 := by split <;> positivity
      linarith
    push_cast at hhigh
    cases power with
    | false =>
      simp only [Bool.false_eq_true, if_false] at hfine hlow
      linarith
    | true =>
      simp only [if_true] at hfine hlow
      linarith
  have hfind : ∀ ks : List Nat, k ∈ ks → k + 1 ∈ ks → (ks.find? ((Rounding.of m x power).admits · e)).isSome := by
    intro ks hfirst hsecond
    rw [List.find?_isSome]
    rcases hone with h | h
    · exact ⟨k, hfirst, h⟩
    · exact ⟨k + 1, hsecond, h⟩
  split <;> exact hfind _ (by simp) (by simp)

/-- What is found on a grid is admitted. -/
theorem admits_of_atGrid {r : Rounding} (h : r.atGrid e = some n) : r.admits n e := by
  simp only [Rounding.atGrid] at h
  split at h <;> exact List.find?_some (p := fun k => r.admits k e) h

/-- A search comes to a decimal that is admitted, if there is one on its last grid. -/
theorem admits_search {r : Rounding} {exponent : Int} {tries digits : Nat}
    (h : (r.atGrid (exponent + 1 - (digits + tries : Nat))).isSome) :
    r.admits (r.search exponent (tries + 1) digits).1 (r.search exponent (tries + 1) digits).2 := by
  induction tries generalizing digits with
  | zero =>
    obtain ⟨n, hn⟩ := Option.isSome_iff_exists.mp h
    have hn : r.atGrid (exponent + 1 - digits) = some n := hn
    rw [Rounding.search, hn]
    exact admits_of_atGrid hn
  | succ tries ih =>
    rw [Rounding.search]
    cases hgrid : r.atGrid (exponent + 1 - digits) with
    | some n => exact admits_of_atGrid hgrid
    | none =>
      refine @ih (digits + 1) ?_
      have hsum : digits + 1 + tries = digits + (tries + 1) := by omega
      rwa [hsum]

theorem lt_pow_digitCount (n : Nat) : n < 10 ^ digitCount n :=
  (Nat.length_toDigits_le_iff (by decide) Nat.length_toDigits_pos).mp le_rfl

theorem pow_digitCount_le (h : 0 < n) : 10 ^ (digitCount n - 1) ≤ n := by
  by_contra hlt
  have hlength : 0 < digitCount n := Nat.length_toDigits_pos
  by_cases hone : digitCount n = 1
  · rw [hone, Nat.sub_self, Nat.pow_zero] at hlt
    omega
  · have hle := (Nat.length_toDigits_le_iff (b := 10) (by decide) (by omega)).mpr (not_le.mp hlt)
    have hcount : (Nat.toDigits 10 n).length = digitCount n := rfl
    omega

/-- The decimal exponent of a number is not too large. -/
theorem pow_exponentOf_le {num den : Nat} (hnum : 0 < num) (hden : 0 < den) :
    (10 : ℚ) ^ exponentOf num den ≤ num / den := by
  have hden' : (0 : ℚ) < den := by exact_mod_cast hden
  rw [exponentOf, le_div_iff₀ hden']
  split
  · have hquotient : 0 < num / den := Nat.div_pos ‹_› hden
    have hcount : 0 < digitCount (num / den) := Nat.length_toDigits_pos
    have hexponent : (digitCount (num / den) : ℤ) - 1 = (digitCount (num / den) - 1 : Nat) := by omega
    have hle : 10 ^ (digitCount (num / den) - 1) * den ≤ num :=
      (Nat.mul_le_mul_right den (pow_digitCount_le hquotient)).trans (Nat.div_mul_le_self num den)
    rw [hexponent, zpow_natCast]
    exact_mod_cast hle
  · have hceil := Nat.div_add_mod (den + num - 1) num
    have hmod := Nat.mod_lt (den + num - 1) hnum
    have hcount := lt_pow_digitCount ((den + num - 1) / num - 1)
    have hle : den ≤ num * 10 ^ digitCount ((den + num - 1) / num - 1) := by
      have hstep : num * ((den + num - 1) / num) ≤ num * 10 ^ digitCount ((den + num - 1) / num - 1) :=
        Nat.mul_le_mul_left num (by omega)
      omega
    rw [zpow_neg, zpow_natCast, inv_mul_le_iff₀ (by positivity), mul_comm]
    exact_mod_cast hle

/-- The search for the digits of a floating-point number comes to a decimal that is admitted. -/
theorem admits_search_of (hm : 0 < m) (hsmall : m < 2 ^ 53) (hpower : power → m = 2 ^ 52) :
    let r := Rounding.of m x power
    let found := r.search (exponentOf r.value r.den) 17 1
    r.admits found.1 found.2 := by
  have hpos : (0 : ℚ) < 2 ^ x := by positivity
  have hvalue : 0 < (Rounding.of m x power).value := by
    simp only [Rounding.of, Nat.pow_eq]
    positivity
  refine admits_search (isSome_atGrid hm ?_)
  have hexponent := pow_exponentOf_le hvalue (den_pos : 0 < (Rounding.of m x power).den)
  rw [value_div_den] at hexponent
  generalize exponentOf (Rounding.of m x power).value (Rounding.of m x power).den = exponent at hexponent ⊢
  have hgrid : (10 : ℚ) ^ (exponent + 1 - (1 + 16 : Nat)) = 10 ^ exponent / 10 ^ 16 := by
    rw [show exponent + 1 - (1 + 16 : Nat) = exponent - 16 by omega, zpow_sub₀ (by norm_num)]
    norm_num
  rw [hgrid]
  cases power with
  | false =>
    have hle : (m : ℚ) ≤ 2 ^ 53 := by exact_mod_cast hsmall.le
    have hmul := mul_le_mul_of_nonneg_right hle hpos.le
    simp only [Bool.false_eq_true, if_false]
    rw [div_lt_iff₀ (by norm_num)]
    linarith
  | true =>
    rw [hpower rfl] at hexponent
    push_cast at hexponent
    simp only [if_true]
    rw [div_lt_iff₀ (by norm_num)]
    linarith

end Search

/-! ## The decimals that are found -/

/-- The significant digits of a number are its digits without the zeros at the end. -/
theorem significant_append (n : Nat) : ∃ k, digitsOf n = significant n ++ List.replicate k 0 := by
  have hsignificant : significant n = ((digitsOf n).reverse.dropWhile (· == 0)).reverse := rfl
  have hzeros : (digitsOf n).reverse.takeWhile (· == 0) =
      List.replicate ((digitsOf n).reverse.takeWhile (· == 0)).length 0 :=
    List.eq_replicate_of_mem fun d hd => eq_of_beq (List.mem_takeWhile_imp (p := (· == 0)) hd)
  have hsplit := List.takeWhile_append_dropWhile (p := (· == 0)) (l := (digitsOf n).reverse)
  refine ⟨((digitsOf n).reverse.takeWhile (· == 0)).length, ?_⟩
  rw [hsignificant, ← List.reverse_replicate, ← hzeros, ← List.reverse_append, hsplit, List.reverse_reverse]

theorem lt_ten_of_mem_significant {n d : Nat} (h : d ∈ significant n) : d < 10 := by
  obtain ⟨k, hk⟩ := significant_append n
  refine lt_ten_of_mem_digitsOf (n := n) ?_
  rw [hk]
  exact List.mem_append_left _ h

theorem head?_significant (n : Nat) : (significant n).head? ≠ some 0 := by
  by_cases hn : n = 0
  · rw [hn]
    decide
  · obtain ⟨k, hk⟩ := significant_append n
    have hhead := head?_digitsOf hn
    by_cases hnil : significant n = []
    · rw [hnil]
      exact nofun
    · rwa [hk, List.head?_append_of_ne_nil _ hnil] at hhead

/-- The significant digits of a number, as many places before the point as it has digits, are the number. -/
theorem value_significant (negative : Bool) (n : Nat) (e : Int) :
    value ⟨negative, significant n, digitCount n + e⟩ = (if negative then -1 else 1) * (n * 10 ^ e) := by
  obtain ⟨k, hk⟩ := significant_append n
  have hnumeral : n = numeral (significant n) * 10 ^ k := by
    have hn := numeral_digitsOf (n := n)
    rw [hk, numeral_append, numeral_replicate, List.length_replicate] at hn
    exact hn.symm
  have hlength : digitCount n = (significant n).length + k := by
    have hcount := length_digitsOf (n := n)
    rw [hk, List.length_append, List.length_replicate] at hcount
    exact hcount.symm
  have hexponent : (digitCount n : ℤ) + e - (significant n).length = k + e := by omega
  have hcast : (n : ℚ) = numeral (significant n) * 10 ^ k := by exact_mod_cast hnumeral
  simp only [value, hexponent]
  rw [zpow_add₀ (by norm_num), zpow_natCast, hcast]
  ring

/-- **The decimal of a positive number** has its digits in order, and lies within the reach of the number. -/
theorem shortest_spec (negative : Bool) {m : Nat} {x : Int} {power : Bool} (hm : 0 < m) (hsmall : m < 2 ^ 53)
    (hpower : power ↔ m = 2 ^ 52 ∧ -1074 < x) :
    (shortest negative m x power).Canonical ∧ ∃ q : ℚ,
      (shortest negative m x power).value = (if negative then -1 else 1) * q ∧
      m * 2 ^ x - reach m x ≤ q ∧ q ≤ m * 2 ^ x + 2 ^ x / 2 ∧
      (m % 2 ≠ 0 → m * 2 ^ x - reach m x < q ∧ q < m * 2 ^ x + 2 ^ x / 2) := by
  have hreach : reach m x = if power then 2 ^ x / 4 else 2 ^ x / 2 := by
    simp only [reach, ← hpower]
  have hadmits := admits_search_of (x := x) hm hsmall fun h => (hpower.mp h).1
  rw [hreach]
  simp only at hadmits
  simp only [shortest]
  generalize (Rounding.of m x power).search _ 17 1 = found at hadmits ⊢
  obtain ⟨n, e⟩ := found
  refine ⟨⟨fun d hd => lt_ten_of_mem_significant hd, head?_significant n⟩, n * 10 ^ e,
    value_significant negative n e, ?_⟩
  rw [admits_iff hm] at hadmits
  simp only at hadmits
  split at hadmits
  · exact ⟨hadmits.1, hadmits.2, fun hodd => absurd ‹m % 2 = 0› hodd⟩
  · exact ⟨hadmits.1.le, hadmits.2.le, fun _ => hadmits⟩

end Decimal

/-! ## Rounding -/

namespace Binary

theorem normal_zero : Normal 0 (-1074) := ⟨by decide, le_rfl, .inl rfl⟩

theorem magnitude_nonneg (bits : UInt64) : 0 ≤ magnitude bits := by
  rw [magnitude]
  positivity

/-- A number within the reach of a floating-point number, with the same sign, is rounded to it. -/
theorem roundsTo_of_reach {bits : UInt64} {q : ℚ} (hm : 0 < (parts bits).1)
    (hlow : magnitude bits - reach (parts bits).1 (parts bits).2 ≤ q)
    (hhigh : q ≤ magnitude bits + 2 ^ (parts bits).2 / 2)
    (hodd : (parts bits).1 % 2 ≠ 0 → magnitude bits - reach (parts bits).1 (parts bits).2 < q ∧
      q < magnitude bits + 2 ^ (parts bits).2 / 2) :
    RoundsTo ((if isNegative bits then -1 else 1) * q) bits := by
  have hnormal := normal_parts bits
  -- It suffices that the distance from a number of another magnitude is no greater than that from the other number.
  have hnearer : ∀ (m' : Nat) (x' : Int) (distance : ℚ), Normal m' x' → (m' * 2 ^ x' : ℚ) ≠ magnitude bits →
      |q - m' * 2 ^ x'| ≤ distance →
      |q - magnitude bits| ≤ distance ∧ (|q - magnitude bits| = distance → (parts bits).1 % 2 = 0) := by
    intro m' x' distance hnormal' hne hle
    obtain ⟨hnear, hstrict⟩ := nearest hnormal hnormal' hne hlow hhigh
    refine ⟨hnear.trans hle, fun heq => ?_⟩
    by_contra h
    obtain ⟨hlow', hhigh'⟩ := hodd h
    exact absurd heq (ne_of_lt ((hstrict hlow' hhigh').trans_le hle))
  intro other _ hne
  rw [value, value] at hne
  have hsame : |(if isNegative bits then -1 else 1) * q - value bits| = |q - magnitude bits| := by
    rw [value, ← mul_sub, abs_mul]
    split <;> simp
  rw [hsame]
  by_cases hsign : isNegative other = isNegative bits
  · -- The other number lies on the same side of zero.
    have hother : |(if isNegative bits then -1 else 1) * q - value other| = |q - magnitude other| := by
      rw [value, hsign, ← mul_sub, abs_mul]
      split <;> simp
    rw [hother]
    refine hnearer _ _ _ (normal_parts other) (fun heq => hne ?_) le_rfl
    rw [hsign, magnitude, heq]
  · -- The other number lies on the other side of zero, so that zero is nearer.
    have hmagnitude := magnitude_nonneg other
    have hpos : (0 : ℚ) < 2 ^ (parts bits).2 := by positivity
    have hunit : (2 : ℚ) ^ (parts bits).2 ≤ magnitude bits := by
      have hone : (1 : ℚ) ≤ (parts bits).1 := by exact_mod_cast hm
      rw [magnitude]
      exact le_mul_of_one_le_left hpos.le hone
    have hq : 0 ≤ q := by
      have hreach : reach (parts bits).1 (parts bits).2 ≤ 2 ^ (parts bits).2 / 2 := by
        rw [reach]
        split <;> linarith
      linarith
    have hother : |(if isNegative bits then -1 else 1) * q - value other| = q + magnitude other := by
      rw [value]
      cases hb : isNegative bits <;> cases ho : isNegative other <;> simp_all
      · exact add_nonneg hq hmagnitude
      · rw [← neg_add', abs_neg, abs_of_nonneg (add_nonneg hq hmagnitude)]
    rw [hother]
    refine hnearer 0 (-1074) _ normal_zero ?_ ?_
    · rw [Nat.cast_zero, zero_mul]
      exact (hpos.trans_le hunit).ne
    · rw [Nat.cast_zero, zero_mul, sub_zero, abs_of_nonneg hq]
      exact le_add_of_nonneg_right hmagnitude

/-- The shortest decimal of a floating-point number other than zero is rounded to it. -/
theorem roundsTo_shortest (bits : UInt64) (power : Bool) (hm : 0 < (parts bits).1)
    (hpower : power ↔ (parts bits).1 = 2 ^ 52 ∧ -1074 < (parts bits).2) :
    let d := Decimal.shortest (isNegative bits) (parts bits).1 (parts bits).2 power
    d.Canonical ∧ RoundsTo d.value bits := by
  obtain ⟨hcanonical, q, hvalue, hlow, hhigh, hodd⟩ :=
    Decimal.shortest_spec (isNegative bits) hm (normal_parts bits).small hpower
  refine ⟨hcanonical, ?_⟩
  rw [hvalue]
  exact roundsTo_of_reach hm hlow hhigh hodd

/-- **The digits of a floating-point number are enough**: the decimal that is found for it is rounded to it. -/
theorem roundsTo_ofBits {bits : UInt64} (h : isFinite bits) :
    ∃ d, Decimal.ofBits bits = .finite d ∧ d.Canonical ∧ RoundsTo d.value bits := by
  have hbiased : bits.toNat / 2 ^ 52 % 2048 ≠ 2047 := of_decide_eq_true h
  have hnegative : (bits.toNat / Nat.pow 2 63 == 1) = isNegative bits := rfl
  simp only [Decimal.ofBits, hnegative, Nat.pow_eq, beq_iff_eq, if_neg hbiased]
  by_cases hzero : bits.toNat / 2 ^ 52 % 2048 = 0
  · have hparts : parts bits = (bits.toNat % 2 ^ 52, -1074) := if_pos hzero
    rw [if_pos hzero]
    by_cases hfraction : bits.toNat % 2 ^ 52 = 0
    · rw [if_pos hfraction]
      refine ⟨_, rfl, ⟨nofun, nofun⟩, fun other _ _ => ?_⟩
      have hvalue : value bits = 0 := by
        rw [value, magnitude, hparts, hfraction, Nat.cast_zero, zero_mul, mul_zero]
      have hdecimal : Decimal.value ⟨isNegative bits, [], 0⟩ = 0 := by simp [Decimal.value]
      rw [hvalue, hdecimal, sub_zero, abs_zero, hparts, hfraction]
      exact ⟨abs_nonneg _, fun _ => rfl⟩
    · rw [if_neg hfraction]
      have hshortest := roundsTo_shortest bits false (by rw [hparts]; omega) (by simp [hparts])
      rw [hparts] at hshortest
      exact ⟨_, rfl, hshortest⟩
  · have hparts : parts bits = (2 ^ 52 + bits.toNat % 2 ^ 52, ((bits.toNat / 2 ^ 52 % 2048 : Nat) : Int) - 1075) :=
      if_neg hzero
    rw [if_neg hzero]
    have hpower : (bits.toNat % 2 ^ 52 == 0 && decide (bits.toNat / 2 ^ 52 % 2048 > 1)) = true ↔
        (parts bits).1 = 2 ^ 52 ∧ -1074 < (parts bits).2 := by
      rw [hparts, Bool.and_eq_true, beq_iff_eq, decide_eq_true_eq]
      constructor
      · rintro ⟨hfraction, hone⟩
        exact ⟨by simp only; omega, by simp only; omega⟩
      · rintro ⟨hfraction, hone⟩
        simp only at hfraction hone
        exact ⟨by omega, by omega⟩
    have hshortest := roundsTo_shortest bits _ (by rw [hparts]; simp only; omega) hpower
    rw [hparts] at hshortest
    exact ⟨_, rfl, hshortest⟩

end Binary

end Literate
