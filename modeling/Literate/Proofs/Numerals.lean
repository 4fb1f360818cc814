import Literate.Decimal
import Literate.Proofs.JsonText
import Mathlib.Data.List.DropRight
import Mathlib.Tactic.FieldSimp
import Mathlib.Tactic.Ring

/-!
# Numerals

The decimal text of natural numbers, integers and floating-point numbers is read as numbers: whatever form a decimal
number is written in, its text denotes the number itself (`isNumber_general`).
-/

namespace Literate

open Text Json

/-! ## Digits -/

/-- The number that decimal digits denote. -/
def numeral (ds : List Nat) : Nat := ds.foldl (fun n d => n * 10 + d) 0

/-- The decimal digits of a number. -/
def digitsOf (n : Nat) : List Nat := (Nat.toDigits 10 n).map fun c => c.toNat - 48

section Digits

variable {ds : List Nat} {n d : Nat}

@[simp] theorem numeral_nil : numeral [] = 0 := rfl

theorem foldl_numeral (m : Nat) : ds.foldl (fun n d => n * 10 + d) m = m * 10 ^ ds.length + numeral ds := by
  induction ds generalizing m with
  | nil => simp
  | cons d ds ih =>
    rw [numeral, List.foldl_cons, List.foldl_cons, ih, ih, List.length_cons]
    ring

theorem numeral_append (ds es : List Nat) : numeral (ds ++ es) = numeral ds * 10 ^ es.length + numeral es := by
  rw [numeral, List.foldl_append, foldl_numeral, ← numeral]

@[simp] theorem numeral_replicate (k : Nat) : numeral (List.replicate k 0) = 0 := by
  induction k with
  | zero => rfl
  | succ k ih => rw [List.replicate_succ, numeral, List.foldl_cons, ← numeral, ih]

theorem lt_ten_of_mem_zeros (k : Nat) : ∀ d ∈ List.replicate k 0, d < 10 := by
  intro d hd
  rw [List.eq_of_mem_replicate hd]
  decide

theorem digitsOf_ne_nil : digitsOf n ≠ [] := mt List.map_eq_nil_iff.mp Nat.toDigits_ne_nil

theorem length_digitsOf : (digitsOf n).length = Decimal.digitCount n := List.length_map ..

theorem digitsOf_eq : digitsOf n = if n < 10 then [n] else digitsOf (n / 10) ++ [n % 10] := by
  rw [digitsOf, Nat.toDigits_eq_if (by decide)]
  split
  · rw [List.map_singleton, Nat.toNat_digitChar_sub_48_of_lt_ten ‹n < 10›]
  · rw [List.map_append, List.map_singleton, Nat.toNat_digitChar_sub_48_of_lt_ten (Nat.mod_lt n (by decide))]
    rfl

theorem lt_ten_of_mem_digitsOf (h : d ∈ digitsOf n) : d < 10 := by
  induction n using Nat.strong_induction_on with
  | _ n ih =>
    rw [digitsOf_eq] at h
    split at h
    · rwa [List.mem_singleton.mp h]
    · rcases List.mem_append.mp h with h | h
      · exact ih (n / 10) (by omega) h
      · rw [List.mem_singleton.mp h]
        exact Nat.mod_lt n (by decide)

theorem numeral_digitsOf : numeral (digitsOf n) = n := by
  induction n using Nat.strong_induction_on with
  | _ n ih =>
    rw [digitsOf_eq]
    split
    · simp [numeral]
    · rw [numeral_append, ih (n / 10) (by omega)]
      simp [numeral]
      omega

/-- The first digit of a number is zero only if the number is. -/
theorem head?_digitsOf (h : n ≠ 0) : (digitsOf n).head? ≠ some 0 := by
  induction n using Nat.strong_induction_on with
  | _ n ih =>
    rw [digitsOf_eq]
    split
    · simpa using h
    · rw [List.head?_append_of_ne_nil _ digitsOf_ne_nil]
      exact ih (n / 10) (by omega) (by omega)

/-! ## Digits as text -/

theorem digitText_append (ds es : List Nat) :
    Decimal.digitText (ds ++ es) = Decimal.digitText ds ++ Decimal.digitText es := List.map_append

theorem digitText_replicate (k : Nat) : Decimal.digitText (List.replicate k 0) = List.replicate k (byte '0') :=
  List.map_replicate

theorem digitValue?_digit : ∀ d < 10, digitValue? (byte '0' + d.toUInt8) = some d := by decide

theorem digits?_digitText (hne : ds ≠ []) (h : ∀ d ∈ ds, d < 10) :
    digits? 10 (Decimal.digitText ds) = some (numeral ds) := by
  have hfold : ∀ (ds : List Nat) (m : Nat), (∀ d ∈ ds, d < 10) →
      (Decimal.digitText ds).foldlM (pushDigit? 10) m = some (ds.foldl (fun n d => n * 10 + d) m) := by
    intro ds
    induction ds with
    | nil => exact fun _ _ => rfl
    | cons d ds ih =>
      intro m hds
      have hd := hds d List.mem_cons_self
      have hpush : pushDigit? 10 m (byte '0' + d.toUInt8) = some (m * 10 + d) := by
        rw [pushDigit?, digitValue?_digit d hd, Option.bind_some, if_pos hd]
      rw [Decimal.digitText, List.map_cons, List.foldlM_cons, hpush, List.foldl_cons]
      exact ih _ fun e he => hds e (List.mem_cons_of_mem _ he)
  have htext : Decimal.digitText ds ≠ [] := mt List.map_eq_nil_iff.mp hne
  rw [digits?, if_neg htext]
  exact hfold ds 0 h

theorem ofNat_eq_digitText (n : Nat) : Text.ofNat n = Decimal.digitText (digitsOf n) := by
  rw [Text.ofNat, Decimal.digitText, digitsOf, List.map_map]
  refine List.map_congr_left fun c hc => ?_
  have hdigit := Nat.isDigit_of_mem_toDigits (by decide) (by decide) hc
  have hrange : 48 ≤ c.toNat ∧ c.toNat ≤ 57 := Char.isDigit_iff_toNat.mp hdigit
  have hzero : (byte '0').toNat = 48 := rfl
  rw [Function.comp_apply, ← UInt8.toNat_inj, UInt8.toNat_add, toNat_byte (by omega), hzero, Nat.toUInt8,
    UInt8.toNat_ofNat']
  omega

/-- Digits of which the first is no zero are the whole part of a number. -/
theorem isWhole_digitText (hne : ds ≠ []) (h : ∀ d ∈ ds, d < 10) (hhead : ds.head? = some 0 → ds.length = 1) :
    IsWhole (Decimal.digitText ds) (numeral ds) := by
  refine ⟨digits?_digitText hne h, fun hzero => ?_⟩
  obtain ⟨d, ds, rfl⟩ := List.exists_cons_of_ne_nil hne
  have hd : d = 0 := by
    have hvalue := digitValue?_digit d (h d List.mem_cons_self)
    have hbyte : byte '0' + d.toUInt8 = byte '0' := Option.some.inj hzero
    rw [hbyte] at hvalue
    exact (Option.some.inj hvalue).symm
  rw [Decimal.digitText, List.length_map]
  exact hhead (congrArg some hd)

theorem isWhole_ofNat (n : Nat) : IsWhole (Text.ofNat n) n := by
  have hhead : (digitsOf n).head? = some 0 → (digitsOf n).length = 1 := by
    intro hzero
    by_cases hn : n = 0
    · rw [hn]
      rfl
    · exact absurd hzero (head?_digitsOf hn)
  have hwhole := isWhole_digitText digitsOf_ne_nil (fun _ h => lt_ten_of_mem_digitsOf h) hhead
  rwa [← ofNat_eq_digitText, numeral_digitsOf] at hwhole

end Digits

/-! ## Integers -/

theorem isNumber_ofNat (n : Nat) : IsNumber (Text.ofNat n) n :=
  ⟨[], Text.ofNat n, [], [], n, 0, 0, by simp, isWhole_ofNat n, .inl ⟨rfl, rfl⟩, .inl ⟨rfl, rfl⟩, .inl ⟨rfl, by simp⟩⟩

theorem isNumber_ofInt (n : Int) : IsNumber (Text.ofInt n) n := by
  cases n with
  | ofNat n => exact isNumber_ofNat n
  | negSucc n =>
    refine ⟨"-", Text.ofNat (n + 1), [], [], n + 1, 0, 0, ?_, isWhole_ofNat _, .inl ⟨rfl, rfl⟩, .inl ⟨rfl, rfl⟩, ?_⟩
    · simp [Text.ofInt]
      rfl
    · exact .inr ⟨rfl, by simp [Int.negSucc_eq]⟩

/-! ## Decimals -/

namespace Decimal

variable {d : Decimal}

/-- The number that a decimal stands for. -/
def value (d : Decimal) : ℚ :=
  (if d.negative then -1 else 1) * (numeral d.digits * 10 ^ (d.point - d.digits.length))

/-- The digits of a decimal are digits, of which the first is no zero. -/
structure Canonical (d : Decimal) : Prop where
  lt_ten : ∀ n ∈ d.digits, n < 10
  head : d.digits.head? ≠ some 0

/-- A number with the sign of a decimal. -/
theorem isNumber_sign (d : Decimal) {whole fraction exponent : Text} {n : Nat} {f : ℚ} {k : ℤ} (hw : IsWhole whole n)
    (hf : IsFraction fraction f) (he : IsExponent exponent k)
    (hvalue : (n + f) * 10 ^ k = numeral d.digits * 10 ^ (d.point - d.digits.length)) :
    IsNumber (d.sign ++ (whole ++ fraction ++ exponent)) d.value := by
  refine ⟨d.sign, whole, fraction, exponent, n, f, k, by simp, hw, hf, he, ?_⟩
  rw [value, sign, ← hvalue]
  cases d.negative with
  | false => exact .inl ⟨rfl, by simp⟩
  | true => exact .inr ⟨rfl, by simp⟩

theorem isFraction_digitText {ds : List Nat} (hne : ds ≠ []) (h : ∀ d ∈ ds, d < 10) :
    IsFraction (byte '.' :: digitText ds) (numeral ds / 10 ^ ds.length) :=
  .inr ⟨digitText ds, numeral ds, rfl, digits?_digitText hne h, by rw [digitText, List.length_map]⟩

theorem isWhole_zero : IsWhole "0" 0 := isWhole_ofNat 0

/-! ### The form without an exponent -/

theorem isFraction_nil : IsFraction [] 0 := .inl ⟨rfl, rfl⟩

theorem isExponent_nil : IsExponent [] 0 := .inl ⟨rfl, rfl⟩

section Fixed

variable (hd : d.Canonical) (hne : d.digits ≠ [])
include hd hne

/-- All digits stand after the point, behind some zeros. -/
theorem isNumber_digits_after {k : Nat} (hpoint : d.point = -k) :
    IsNumber (d.sign ++ ("0." ++ List.replicate k (byte '0') ++ digitText d.digits)) d.value := by
  have hds := List.forall_mem_append.mpr ⟨lt_ten_of_mem_zeros k, hd.lt_ten⟩
  have hfraction := isFraction_digitText (List.append_ne_nil_of_right_ne_nil _ hne) hds
  have hnumber := isNumber_sign d isWhole_zero hfraction isExponent_nil ?_
  · rw [digitText_append, digitText_replicate, List.append_nil] at hnumber
    have htext : ("0." : Text) = ofString "0" ++ [byte '.'] := rfl
    rw [htext]
    simpa using hnumber
  · have hten : (10 : ℚ) ≠ 0 := by norm_num
    rw [numeral_append, numeral_replicate, List.length_append, List.length_replicate, hpoint, zpow_sub₀ hten, zpow_neg,
      zpow_natCast, zpow_natCast, pow_add]
    simp
    field_simp

/-- All digits stand before the point, and zeros after them. -/
theorem isNumber_digits_before {k : Nat} (hpoint : d.point = d.digits.length + k) :
    IsNumber (d.sign ++ (digitText d.digits ++ List.replicate k (byte '0'))) d.value := by
  have hds := List.forall_mem_append.mpr ⟨hd.lt_ten, lt_ten_of_mem_zeros k⟩
  have hhead : (d.digits ++ List.replicate k 0).head? ≠ some 0 := by
    rw [List.head?_append_of_ne_nil _ hne]
    exact hd.head
  have hwhole := isWhole_digitText (List.append_ne_nil_of_left_ne_nil hne _) hds (absurd · hhead)
  have hnumber := isNumber_sign d hwhole isFraction_nil isExponent_nil ?_
  · rwa [digitText_append, digitText_replicate, List.append_nil, List.append_nil] at hnumber
  · have hexponent : d.point - d.digits.length = (k : ℤ) := by omega
    rw [numeral_append, numeral_replicate, List.length_replicate, hexponent, zpow_natCast]
    simp

/-- The point stands between the digits. -/
theorem isNumber_digits_around {n : Nat} (hpoint : d.point = n) (hpos : 0 < n) (hlength : n < d.digits.length) :
    IsNumber (d.sign ++ (digitText (d.digits.take n) ++ "." ++ digitText (d.digits.drop n))) d.value := by
  have hwhole : IsWhole (digitText (d.digits.take n)) (numeral (d.digits.take n)) := by
    refine isWhole_digitText ?_ (fun m hm => hd.lt_ten m (List.mem_of_mem_take hm)) fun hhead => absurd hhead ?_
    · rw [Ne, List.take_eq_nil_iff]
      exact not_or.mpr ⟨by omega, hne⟩
    · rw [List.head?_take, if_neg (by omega)]
      exact hd.head
  have hafter : d.digits.drop n ≠ [] := by
    rw [Ne, List.drop_eq_nil_iff]
    omega
  have hfraction := isFraction_digitText hafter fun m hm => hd.lt_ten m (List.mem_of_mem_drop hm)
  have hnumber := isNumber_sign d hwhole hfraction isExponent_nil ?_
  · rw [List.append_nil] at hnumber
    have htext : ofString "." = [byte '.'] := rfl
    rw [htext]
    simpa using hnumber
  · obtain ⟨k, hk⟩ : ∃ k, d.digits.length = n + k := ⟨d.digits.length - n, by omega⟩
    have hexponent : d.point - d.digits.length = -(k : ℤ) := by omega
    have hdrop : (d.digits.drop n).length = k := by
      rw [List.length_drop]
      omega
    have hsplit := numeral_append (d.digits.take n) (d.digits.drop n)
    rw [List.take_append_drop, hdrop] at hsplit
    rw [hdrop, hexponent, hsplit, zpow_neg, zpow_natCast]
    push_cast
    field_simp

end Fixed

/-- **The form without an exponent.** -/
theorem isNumber_fixed (hd : d.Canonical) : IsNumber d.fixed d.value := by
  rw [fixed]
  by_cases hne : d.digits = []
  · rw [if_pos (List.isEmpty_iff.mpr hne)]
    have hnumber := isNumber_sign d isWhole_zero isFraction_nil isExponent_nil (by simp [hne])
    rwa [List.append_nil, List.append_nil] at hnumber
  rw [if_neg (mt List.isEmpty_iff.mp hne)]
  split
  · exact isNumber_digits_after hd hne (by omega)
  dsimp only
  split
  · exact isNumber_digits_before hd hne (by omega)
  · exact isNumber_digits_around hd hne (by omega) (by omega) (by omega)

/-! ### The form with an exponent -/

/-- An exponent is written with its sign, and with zeros before its digits up to some width. -/
theorem isExponent_scientific (width : Nat) (e : ℤ) :
    IsExponent (ofString "e" ++ ofString (if e < 0 then "-" else "+") ++
      List.replicate (width - (Text.ofNat e.natAbs).length) (byte '0') ++ Text.ofNat e.natAbs) e := by
  refine .inr ⟨byte 'e', ofString (if e < 0 then "-" else "+"),
    List.replicate (width - (Text.ofNat e.natAbs).length) (byte '0') ++ Text.ofNat e.natAbs, e.natAbs, by simp; rfl,
    .inl rfl, ?_, ?_⟩
  · rw [ofNat_eq_digitText, ← digitText_replicate, ← digitText_append,
      digits?_digitText (List.append_ne_nil_of_right_ne_nil _ digitsOf_ne_nil), numeral_append, numeral_replicate,
      numeral_digitsOf, Nat.zero_mul, Nat.zero_add]
    exact List.forall_mem_append.mpr ⟨lt_ten_of_mem_zeros _, fun _ => lt_ten_of_mem_digitsOf⟩
  · by_cases he : e < 0
    · exact .inl ⟨by rw [if_pos he], by omega⟩
    · exact .inr ⟨.inr (by rw [if_neg he]), by omega⟩

/-- **The form with an exponent.** -/
theorem isNumber_scientific (hd : d.Canonical) (width : Nat) : IsNumber (d.scientific width) d.value := by
  have hten : (10 : ℚ) ≠ 0 := by norm_num
  rw [scientific]
  obtain ⟨negative, digits, point⟩ := d
  match digits with
  | [] =>
    have hnumber := isNumber_sign ⟨negative, [], point⟩ isWhole_zero isFraction_nil (isExponent_scientific width 0)
      (by simp)
    simpa using hnumber
  | [n] =>
    have hwhole : IsWhole (digitText [n]) (numeral [n]) := isWhole_digitText (by simp) hd.lt_ten fun _ => rfl
    have hnumber := isNumber_sign ⟨negative, [n], point⟩ hwhole isFraction_nil
      (isExponent_scientific width (point - 1)) (by simp)
    simpa using hnumber
  | n :: m :: rest =>
    have hwhole : IsWhole (digitText [n]) (numeral [n]) :=
      isWhole_digitText (by simp) (fun k hk => hd.lt_ten k (List.mem_singleton.mp hk ▸ List.mem_cons_self)) fun _ => rfl
    have hrest : m :: rest ≠ [] := by simp
    have hfraction := isFraction_digitText hrest fun k hk => hd.lt_ten k (List.mem_cons_of_mem n hk)
    have hnumber := isNumber_sign ⟨negative, n :: m :: rest, point⟩ hwhole hfraction
      (isExponent_scientific width (point - 1)) ?_
    · have htext : ofString "." = [byte '.'] := rfl
      rw [htext]
      simpa using hnumber
    · have hsplit := numeral_append [n] (m :: rest)
      rw [List.singleton_append] at hsplit
      rw [hsplit]
      have hexp : point - 1 = (point - ↑(n :: m :: rest).length) + (m :: rest).length := by
        simp only [List.length_cons]
        omega
      rw [hexp, zpow_add₀ hten, zpow_natCast]
      push_cast
      field_simp

/-- **A decimal denotes its number in its general form.** -/
theorem isNumber_general (hd : d.Canonical) : IsNumber d.general d.value := by
  rw [general]
  split
  · exact isNumber_scientific hd 2
  · exact isNumber_fixed hd

end Decimal

end Literate
