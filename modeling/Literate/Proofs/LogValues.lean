import Literate.Log.Pretty
import Literate.Proofs.Quotation
import Literate.Proofs.Rounding

/-!
# Bare values in pretty log records

A text without control characters is a block as it is, and a quoted text is one. Durations, times and numbers that are
not finite are written bare, and none of them is a part of a JSON text: a walk stops at the `s` of a duration, at the
`T` of a time, and at the letters that begin the words for infinite numbers and for no number.
-/

namespace Literate.Log

open Text Json

/-! ## Blocks -/

/-- A text without control characters is a block as it is. -/
theorem block_eq_self {t : Text} (h : ∀ b ∈ t, 0x20 ≤ b) : block t = t := by
  have hne : ∀ b ∈ t, ∀ c < 0x20, b ≠ c := by
    rintro b hb c hc rfl
    exact absurd (h b hb) (UInt8.not_le.mpr hc)
  have hflat : ∀ u : Text, (∀ b ∈ u, ∀ c < 0x20, b ≠ c) → (u.foldr pushBlank ([], none)).1 = u := by
    intro u
    induction u with
    | nil => exact fun _ => rfl
    | cons b u ih =>
      intro hu
      have hb := hu b List.mem_cons_self
      have htab : b ≠ byte '\t' := hb _ (by decide)
      have hreturn : b ≠ byte '\r' := hb _ (by decide)
      rw [List.foldr_cons, pushBlank, if_neg htab, if_neg (fun h => hreturn h.1),
        ih fun c hc => hu c (List.mem_cons_of_mem _ hc)]
  have hpieces : ∀ u : Text, (∀ b ∈ u, ∀ c < 0x20, b ≠ c) → pieces (byte '\n') u = [u] := by
    intro u
    induction u with
    | nil => exact fun _ => rfl
    | cons b u ih =>
      intro hu
      have hfeed : b ≠ byte '\n' := hu b List.mem_cons_self _ (by decide)
      rw [pieces, List.foldr_cons, ← pieces, ih fun c hc => hu c (List.mem_cons_of_mem _ hc), pushPiece, if_neg hfeed]
  rw [block, flattenBlanks, hflat t hne, hpieces t hne]

theorem block_quote (t : Text) : block (quote t) = quote t := block_eq_self fun _ hb => le_of_mem_quote hb

/-! ## Bare values -/

/-- Bytes that neither begin a string nor are a control character, nor the letter before an `s` that JSON allows. -/
def IsBare (t : Text) : Prop := ∀ b ∈ t, 0x20 ≤ b ∧ b ≠ byte '"' ∧ b ≠ byte 'l'

-- by the bytes of the text, and not by all bytes
instance (t : Text) : Decidable (IsBare t) :=
  decidable_of_iff ((t.all fun b => decide (0x20 ≤ b ∧ b ≠ byte '"' ∧ b ≠ byte 'l')) = true)
    (by simp only [IsBare, List.all_eq_true, decide_eq_true_eq])

theorem isBare_append {t u : Text} (ht : IsBare t) (hu : IsBare u) : IsBare (t ++ u) := by
  intro b hb
  rcases List.mem_append.mp hb with hb | hb
  · exact ht b hb
  · exact hu b hb

theorem isBare_digits {ds : List Nat} (h : ∀ d ∈ ds, d < 10) : IsBare (Decimal.digitText ds) := by
  have hdigit : ∀ d < 10, 0x20 ≤ byte '0' + d.toUInt8 ∧ byte '0' + d.toUInt8 ≠ byte '"' ∧
      byte '0' + d.toUInt8 ≠ byte 'l' := by decide
  intro b hb
  obtain ⟨d, hd, rfl⟩ := List.mem_map.mp hb
  exact hdigit d (h d hd)

theorem isBare_ofNat (n : Nat) : IsBare (Text.ofNat n) := by
  rw [ofNat_eq_digitText]
  exact isBare_digits fun _ hd => lt_ten_of_mem_digitsOf hd

theorem isBare_padded (width n : Nat) : IsBare (Layout.padded width n) := by
  refine isBare_append (fun b hb => ?_) (isBare_ofNat n)
  rw [List.eq_of_mem_replicate hb]
  decide

theorem isBare_onlyIf {c : Prop} [Decidable c] {t : Text} (h : IsBare t) : IsBare (onlyIf c t) := by
  unfold onlyIf
  split
  · exact h
  · exact fun _ hb => absurd hb List.not_mem_nil

theorem isBare_of_mem {t u : Text} (ht : IsBare t) (h : ∀ b ∈ u, b ∈ t) : IsBare u := fun b hb => ht b (h b hb)

/-- Outside of strings, a walk stops at a bare text or comes out of it behind no `l`. -/
theorem walk_isBare {t : Text} (h : IsBare t) (hne : t ≠ []) (l : Bool) :
    walk (.outside l) t = none ∨ walk (.outside l) t = some (.outside false) := by
  induction t generalizing l with
  | nil => exact absurd rfl hne
  | cons b t ih =>
    obtain ⟨-, hquote, hl⟩ := h b List.mem_cons_self
    rw [walk_cons, Spot.next?, if_neg hquote]
    split
    · exact .inl rfl
    · rw [Option.bind_some, decide_eq_false hl]
      by_cases hnil : t = []
      · rw [hnil]
        exact .inr rfl
      · exact ih (fun c hc => h c (List.mem_cons_of_mem _ hc)) hnil false

/-- A walk stops where a bare text goes on with a letter that is not allowed behind it. -/
theorem walk_stops {t u : Text} {b : UInt8} (h : IsBare t) (hne : t ≠ [])
    (hb : b = byte 'T' ∨ b = byte 's') (l : Bool) : walk (.outside l) (t ++ b :: u) = none := by
  rw [walk_append]
  rcases walk_isBare h hne l with hnone | hsome
  · rw [hnone, Option.bind_none]
  · rw [hsome, Option.bind_some, walk_cons]
    rcases hb with rfl | rfl <;> rfl

/-- The words for numbers that are not finite. -/
def nonfiniteWords : List Text := ["NaN", "-Inf", "+Inf"]

theorem floatText_nonfinite {bits : UInt64} (h : Binary.isFinite bits = false) : floatText bits ∈ nonfiniteWords := by
  have hbiased : bits.toNat / 2 ^ 52 % 2048 = 2047 := not_not.mp (of_decide_eq_false h)
  have hnumber : Decimal.ofBits bits = .nan ∨ ∃ negative, Decimal.ofBits bits = .infinite negative := by
    simp only [Decimal.ofBits, Nat.pow_eq, hbiased, beq_self_eq_true, if_true]
    split
    · exact .inr ⟨_, rfl⟩
    · exact .inl rfl
  rw [floatText]
  rcases hnumber with hnan | ⟨negative, hinfinite⟩
  · rw [hnan]
    simp [Number.general, nonfiniteWords]
  · rw [hinfinite]
    cases negative <;> simp [Number.general, nonfiniteWords]

/-- No number has a control character. -/
theorem le_of_mem_floatText {bits : UInt64} {b : UInt8} (hb : b ∈ floatText bits) : 0x20 ≤ b := by
  cases h : Binary.isFinite bits with
  | false =>
    have hwords : ∀ w ∈ nonfiniteWords, w.all (0x20 ≤ ·) = true := by decide
    exact le_of_all (hwords _ (floatText_nonfinite h)) hb
  | true =>
    obtain ⟨d, hd, hcanonical, -⟩ := Binary.roundsTo_ofBits h
    rw [floatText, hd, Number.general] at hb
    exact le_of_mem_isNumber (Decimal.isNumber_general hcanonical) hb

theorem walk_nonfinite {bits : UInt64} (h : Binary.isFinite bits = false) (l : Bool) :
    walk (.outside l) (block (floatText bits)) = none := by
  have hwords : ∀ w ∈ nonfiniteWords, ∀ l, walk (.outside l) w = none := by decide
  rw [block_eq_self fun _ hb => le_of_mem_floatText hb]
  exact hwords _ (floatText_nonfinite h) l

theorem isBare_fractionOf (places n : Nat) : IsBare (fractionOf places n) := by
  refine isBare_append (isBare_ofNat _) (isBare_onlyIf ?_)
  have hkept : IsBare (trimEnd (· == byte '0') (Layout.padded places (n % Nat.pow 10 places))) := by
    refine isBare_of_mem (isBare_padded places (n % Nat.pow 10 places)) fun b hb => ?_
    have hmem := List.mem_reverse.mp hb
    exact List.mem_reverse.mp ((List.dropWhile_sublist _).subset hmem)
  exact isBare_append (t := [byte '.']) (by decide) hkept

theorem fractionOf_ne_nil (places n : Nat) : fractionOf places n ≠ [] :=
  List.append_ne_nil_of_left_ne_nil (mt List.map_eq_nil_iff.mp Nat.toDigits_ne_nil) _

/-- A duration ends with an `s` behind some other bare text. -/
theorem durationText_eq (n : Int) : ∃ t, durationText n = t ++ [byte 's'] ∧ IsBare t ∧ t ≠ [] := by
  have hsign : IsBare (onlyIf (n < 0) "-") := isBare_onlyIf (by decide)
  suffices hmagnitude : ∃ t : Text, durationText n = onlyIf (n < 0) "-" ++ (t ++ [byte 's']) ∧ IsBare t ∧ t ≠ [] by
    obtain ⟨t, htext, ht, hne⟩ := hmagnitude
    exact ⟨_, htext.trans (List.append_assoc ..).symm, isBare_append hsign ht, List.append_ne_nil_of_right_ne_nil _ hne⟩
  have hunits : IsBare "0" ∧ IsBare "n" ∧ IsBare "µ" ∧ IsBare "m" ∧ IsBare "h" := by decide
  obtain ⟨hzero, hnano, hmicro, hmilli, hhour⟩ := hunits
  simp only [durationText]
  split
  · exact ⟨"0", rfl, hzero, by decide⟩
  split
  · have hne : Text.ofNat n.natAbs ++ ofString "n" ≠ [] := List.append_ne_nil_of_right_ne_nil _ (by decide)
    exact ⟨_, by simp; rfl, isBare_append (isBare_ofNat _) hnano, hne⟩
  split
  · have hne : fractionOf 3 n.natAbs ++ ofString "µ" ≠ [] := List.append_ne_nil_of_right_ne_nil _ (by decide)
    exact ⟨_, by simp; rfl, isBare_append (isBare_fractionOf _ _) hmicro, hne⟩
  split
  · have hne : fractionOf 6 n.natAbs ++ ofString "m" ≠ [] := List.append_ne_nil_of_right_ne_nil _ (by decide)
    exact ⟨_, by simp; rfl, isBare_append (isBare_fractionOf _ _) hmilli, hne⟩
  · refine ⟨_, rfl, isBare_append (isBare_append (isBare_onlyIf (isBare_append (isBare_ofNat _) hhour))
      (isBare_onlyIf (isBare_append (isBare_ofNat _) hmilli))) (isBare_fractionOf _ _), ?_⟩
    exact List.append_ne_nil_of_right_ne_nil _ (fractionOf_ne_nil _ _)

theorem le_of_mem_durationText {n : Int} {b : UInt8} (hb : b ∈ durationText n) : 0x20 ≤ b := by
  obtain ⟨t, htext, ht, -⟩ := durationText_eq n
  rw [htext] at hb
  rcases List.mem_append.mp hb with hb | hb
  · exact (ht b hb).1
  · rw [List.mem_singleton.mp hb]
    decide

theorem walk_durationText (n : Int) (l : Bool) : walk (.outside l) (block (durationText n)) = none := by
  obtain ⟨t, htext, ht, hne⟩ := durationText_eq n
  rw [block_eq_self fun _ hb => le_of_mem_durationText hb, htext]
  exact walk_stops ht hne (.inr rfl) l

theorem isBare_zoneText (offset : Int) (colon minutes seconds : Bool) :
    IsBare (Layout.zoneText offset colon minutes seconds) := by
  have hsep : IsBare (if colon then ":" else []) := by
    cases colon <;> decide
  have hsign : IsBare (ofString (if offset.tdiv 60 < 0 then "-" else "+")) := by
    split <;> decide
  exact isBare_append (isBare_append (isBare_append hsign (isBare_padded 2 _))
    (isBare_onlyIf (isBare_append hsep (isBare_padded 2 _)))) (isBare_onlyIf (isBare_append hsep (isBare_padded 2 _)))

/-- A time has a `T` behind some other bare text. -/
theorem format_eq (t : Instant) : ∃ date rest, t.format rfc3339 = date ++ byte 'T' :: rest ∧ IsBare date ∧ date ≠ [] ∧
    IsBare rest := by
  have hparts : Layout.parse rfc3339 = [.year, .literal "-", .monthPadded, .literal "-", .dayPadded, .literal "T",
      .hour, .literal ":", .minutePadded, .literal ":", .secondPadded, .zone true true true false] := rfl
  have hmark : IsBare "-" ∧ IsBare ":" ∧ IsBare "Z" := by decide
  rw [Instant.format, hparts, Layout.render]
  simp only [List.flatMap_cons, List.flatMap_nil, Layout.partText]
  obtain ⟨hdash, hcolon, hutc⟩ := hmark
  generalize t.civil = c
  have hyear : IsBare (onlyIf (c.year < 0) "-" ++ Layout.padded 4 c.year.natAbs) :=
    isBare_append (isBare_onlyIf hdash) (isBare_padded _ _)
  have hday : IsBare (ofString "-" ++ (Layout.padded 2 c.month ++ (ofString "-" ++ Layout.padded 2 c.day))) :=
    isBare_append hdash (isBare_append (isBare_padded _ _) (isBare_append hdash (isBare_padded _ _)))
  have hzone : IsBare (if (true && c.zone.offset == 0) = true then ofString "Z"
      else Layout.zoneText c.zone.offset true true false) := by
    split
    · exact hutc
    · exact isBare_zoneText _ _ _ _
  have hclock := isBare_append (isBare_padded 2 c.hour) (isBare_append hcolon
    (isBare_append (isBare_padded 2 c.minute) (isBare_append hcolon (isBare_append (isBare_padded 2 c.second) hzone))))
  have hT : ofString "T" = [byte 'T'] := rfl
  refine ⟨_, _, ?_, isBare_append hyear hday, ?_, hclock⟩
  · simp [hT]
  · exact List.append_ne_nil_of_right_ne_nil _ (List.append_ne_nil_of_left_ne_nil (by decide) _)

theorem le_of_mem_format {t : Instant} {b : UInt8} (hb : b ∈ t.format rfc3339) : 0x20 ≤ b := by
  obtain ⟨date, rest, htext, hdate, -, hrest⟩ := format_eq t
  rw [htext] at hb
  rcases List.mem_append.mp hb with hb | hb
  · exact (hdate b hb).1
  rcases List.mem_cons.mp hb with rfl | hb
  · decide
  · exact (hrest b hb).1

theorem walk_time (t : Instant) (l : Bool) : walk (.outside l) (block (t.format rfc3339)) = none := by
  obtain ⟨date, rest, htext, hdate, hne, -⟩ := format_eq t
  rw [block_eq_self fun _ hb => le_of_mem_format hb, htext]
  exact walk_stops hdate hne (.inl rfl) l

end Literate.Log
