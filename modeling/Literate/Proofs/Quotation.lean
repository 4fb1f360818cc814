import Literate.Proofs.JsonText
import Literate.Proofs.Recognition
import Literate.Text.Quoted

/-!
# Quoted texts as JSON strings

The escapes of quoted texts are those of JSON in part: `\x`, `\U`, `\a` and `\v` are not. A text without characters that
are written so is *portable*, and its quoted form is a JSON string that denotes it (`isString_quote`). The quoted form
of any other text is no part of a JSON text (`walk_quote`).
-/

namespace Literate

open Text Json

/-! ## Characters of a text -/

namespace Symbol

theorem toNat_ofNat_of_isValidChar {n : Nat} (h : n.isValidChar) : (Char.ofNat n).val.toNat = n := by
  rw [Char.ofNat, dif_pos h]
  rfl

theorem ofChars_ascii {b : UInt8} (h : b < 0x80) : ofChars [Char.ofNat b.toNat] = [b] := by
  have hlt : b.toNat < 0x80 := UInt8.lt_iff_toNat_lt.mp h
  have hvalid : b.toNat.isValidChar := .inl (by omega)
  simp only [ofChars, List.flatMap_cons, List.flatMap_nil, List.append_nil, String.utf8EncodeChar,
    toNat_ofNat_of_isValidChar hvalid]
  rw [if_pos (by omega), UInt8.ofNat_toNat]

/-- The second and later bytes of a sequence have six bits each. -/
theorem exists_bits_of_isContinuation {b : UInt8} (h : isContinuation b) : ∃ x < 64, b.toNat = 0x80 + x := by
  have hbounds : (0x80 : UInt8).toNat = 0x80 ∧ (0xBF : UInt8).toNat = 0xBF := ⟨rfl, rfl⟩
  simp only [isContinuation, Bool.and_eq_true, decide_eq_true_eq, UInt8.le_iff_toNat_le] at h
  exact ⟨b.toNat - 0x80, by omega, by omega⟩

/-- A sequence of two bytes has eleven bits, and needs more than seven. -/
theorem exists_bits_of_isPair {b c : UInt8} (h : isPair b c) :
    ∃ x < 32, ∃ y < 64, 2 ≤ x ∧ b.toNat = 0xC0 + x ∧ c.toNat = 0x80 + y := by
  have hbounds : (0xC2 : UInt8).toNat = 0xC2 ∧ (0xDF : UInt8).toNat = 0xDF := ⟨rfl, rfl⟩
  simp only [isPair, Bool.and_eq_true, decide_eq_true_eq, UInt8.le_iff_toNat_le] at h
  obtain ⟨hlead, hc⟩ := h
  obtain ⟨y, hy, hc⟩ := exists_bits_of_isContinuation hc
  exact ⟨b.toNat - 0xC0, by omega, y, hy, by omega, by omega, hc⟩

/-- A sequence of three bytes has sixteen bits, needs more than eleven, and is no surrogate. -/
theorem exists_bits_of_isTriple {b c d : UInt8} (h : isTriple b c d) :
    ∃ x < 16, ∃ y < 64, ∃ z < 64, (x = 0 → 32 ≤ y) ∧ (x = 13 → y < 32) ∧
      b.toNat = 0xE0 + x ∧ c.toNat = 0x80 + y ∧ d.toNat = 0x80 + z := by
  have hlead : (0xE0 : UInt8).toNat = 0xE0 ∧ (0xEF : UInt8).toNat = 0xEF ∧ (0xED : UInt8).toNat = 0xED :=
    ⟨rfl, rfl, rfl⟩
  have hnext : (0xA0 : UInt8).toNat = 0xA0 ∧ (0x9F : UInt8).toNat = 0x9F := ⟨rfl, rfl⟩
  simp only [isTriple, Bool.and_eq_true, Bool.or_eq_true, decide_eq_true_eq, bne_iff_ne, Ne,
    ← UInt8.toNat_inj, UInt8.le_iff_toNat_le] at h
  obtain ⟨⟨⟨⟨hb, hc⟩, hd⟩, hlong⟩, hsurrogate⟩ := h
  obtain ⟨y, hy, hc⟩ := exists_bits_of_isContinuation hc
  obtain ⟨z, hz, hd⟩ := exists_bits_of_isContinuation hd
  exact ⟨b.toNat - 0xE0, by omega, y, hy, z, hz, by omega, by omega, by omega, hc, hd⟩

/-- A sequence of four bytes has twenty-one bits, needs more than sixteen, and is not beyond U+10FFFF. -/
theorem exists_bits_of_isQuadruple {b c d e : UInt8} (h : isQuadruple b c d e) :
    ∃ w < 8, ∃ x < 64, ∃ y < 64, ∃ z < 64, w ≤ 4 ∧ (w = 0 → 16 ≤ x) ∧ (w = 4 → x < 16) ∧
      b.toNat = 0xF0 + w ∧ c.toNat = 0x80 + x ∧ d.toNat = 0x80 + y ∧ e.toNat = 0x80 + z := by
  have hlead : (0xF0 : UInt8).toNat = 0xF0 ∧ (0xF4 : UInt8).toNat = 0xF4 := ⟨rfl, rfl⟩
  have hnext : (0x90 : UInt8).toNat = 0x90 ∧ (0x8F : UInt8).toNat = 0x8F := ⟨rfl, rfl⟩
  simp only [isQuadruple, Bool.and_eq_true, Bool.or_eq_true, decide_eq_true_eq, bne_iff_ne, Ne,
    ← UInt8.toNat_inj, UInt8.le_iff_toNat_le] at h
  obtain ⟨⟨⟨⟨⟨hb, hc⟩, hd⟩, he⟩, hlong⟩, hbeyond⟩ := h
  obtain ⟨x, hx, hc⟩ := exists_bits_of_isContinuation hc
  obtain ⟨y, hy, hd⟩ := exists_bits_of_isContinuation hd
  obtain ⟨z, hz, he⟩ := exists_bits_of_isContinuation he
  exact ⟨b.toNat - 0xF0, by omega, x, hx, y, hy, z, hz, by omega, by omega, by omega, by omega, hc, hd, he⟩

theorem ofChars_pair {b c : UInt8} (h : isPair b c) :
    ofChars [Char.ofNat (b.toNat % 32 * 64 + c.toNat % 64)] = [b, c] := by
  obtain ⟨x, hx, y, hy, hlong, hb, hc⟩ := exists_bits_of_isPair h
  have hcode : b.toNat % 32 * 64 + c.toNat % 64 = x * 64 + y := by omega
  have hvalid : (x * 64 + y).isValidChar := .inl (by omega)
  rw [hcode]
  simp only [ofChars, List.flatMap_cons, List.flatMap_nil, List.append_nil, String.utf8EncodeChar,
    toNat_ofNat_of_isValidChar hvalid]
  rw [if_neg (by omega), if_pos (by omega)]
  simp only [List.cons.injEq, and_true, ← UInt8.toNat_inj, UInt8.toNat_ofNat', hb, hc]
  refine ⟨?_, ?_⟩ <;> omega

theorem ofChars_triple {b c d : UInt8} (h : isTriple b c d) :
    ofChars [Char.ofNat (b.toNat % 16 * 4096 + c.toNat % 64 * 64 + d.toNat % 64)] = [b, c, d] := by
  obtain ⟨x, hx, y, hy, z, hz, hlong, hsurrogate, hb, hc, hd⟩ := exists_bits_of_isTriple h
  have hcode : b.toNat % 16 * 4096 + c.toNat % 64 * 64 + d.toNat % 64 = x * 4096 + y * 64 + z := by omega
  have hvalid : (x * 4096 + y * 64 + z).isValidChar := by
    simp only [Nat.isValidChar]
    omega
  rw [hcode]
  simp only [ofChars, List.flatMap_cons, List.flatMap_nil, List.append_nil, String.utf8EncodeChar,
    toNat_ofNat_of_isValidChar hvalid]
  rw [if_neg (by omega), if_neg (by omega), if_pos (by omega)]
  simp only [List.cons.injEq, and_true, ← UInt8.toNat_inj, UInt8.toNat_ofNat', hb, hc, hd]
  -- only the sizes of the parts matter from here on, and each condition would be split again
  clear hlong hsurrogate hvalid
  have hx' : (x * 4096 + y * 64 + z) / 4096 = x := by omega
  have hy' : (x * 4096 + y * 64 + z) / 64 = x * 64 + y := by omega
  rw [hx', hy']
  refine ⟨?_, ?_, ?_⟩ <;> omega

theorem ofChars_quadruple {b c d e : UInt8} (h : isQuadruple b c d e) :
    ofChars [Char.ofNat (b.toNat % 8 * 262144 + c.toNat % 64 * 4096 + d.toNat % 64 * 64 + e.toNat % 64)] =
      [b, c, d, e] := by
  obtain ⟨w, hw, x, hx, y, hy, z, hz, hlast, hlong, hbeyond, hb, hc, hd, he⟩ := exists_bits_of_isQuadruple h
  have hcode : b.toNat % 8 * 262144 + c.toNat % 64 * 4096 + d.toNat % 64 * 64 + e.toNat % 64 =
      w * 262144 + x * 4096 + y * 64 + z := by omega
  have hvalid : (w * 262144 + x * 4096 + y * 64 + z).isValidChar := .inr (by omega)
  rw [hcode]
  simp only [ofChars, List.flatMap_cons, List.flatMap_nil, List.append_nil, String.utf8EncodeChar,
    toNat_ofNat_of_isValidChar hvalid]
  rw [if_neg (by omega), if_neg (by omega), if_neg (by omega)]
  simp only [List.cons.injEq, and_true, ← UInt8.toNat_inj, UInt8.toNat_ofNat', hb, hc, hd, he]
  clear hlong hbeyond hvalid
  have hw' : (w * 262144 + x * 4096 + y * 64 + z) / 262144 = w := by omega
  have hx' : (w * 262144 + x * 4096 + y * 64 + z) / 4096 = w * 64 + x := by omega
  have hy' : (w * 262144 + x * 4096 + y * 64 + z) / 64 = w * 4096 + x * 64 + y := by omega
  rw [hw', hx', hy']
  refine ⟨?_, ?_, ?_, ?_⟩ <;> omega

/-- The bytes of a character are its encoding, unless they are a byte outside of any well-formed sequence. -/
theorem bytes_first_eq_ofChars {b : UInt8} {rest : Text} (h : (first b rest).isBroken = false) :
    (first b rest).bytes = ofChars [(first b rest).char] := by
  have hbroken : isBroken ⟨replacement, [b]⟩ = true := rfl
  unfold first at h ⊢
  split
  · exact (ofChars_ascii ‹b < 0x80›).symm
  · rw [if_neg ‹_›] at h
    match rest with
    | [] => exact absurd (hbroken.symm.trans h) Bool.noConfusion
    | c :: rest =>
      simp only at h ⊢
      split
      · exact (ofChars_pair ‹_›).symm
      · rw [if_neg ‹_›] at h
        match rest with
        | [] => exact absurd (hbroken.symm.trans h) Bool.noConfusion
        | d :: rest =>
          simp only at h ⊢
          split
          · exact (ofChars_triple ‹_›).symm
          · rw [if_neg ‹_›] at h
            match rest with
            | [] => exact absurd (hbroken.symm.trans h) Bool.noConfusion
            | e :: _ =>
              simp only at h ⊢
              split
              · exact (ofChars_quadruple ‹_›).symm
              · rw [if_neg ‹_›] at h
                exact absurd (hbroken.symm.trans h) Bool.noConfusion

end Symbol

namespace Text

theorem exists_first_of_mem_symbols {t : Text} {r : Symbol} (h : r ∈ symbols t) :
    ∃ b rest, r = Symbol.first b rest := by
  -- by induction on the length: what follows the first character is shorter
  generalize hn : t.length = n
  induction n using Nat.strong_induction_on generalizing t with
  | _ n ih =>
    cases t with
    | nil => exact absurd h List.not_mem_nil
    | cons b rest =>
      rw [symbols_cons] at h
      rcases List.mem_cons.mp h with rfl | h
      · exact ⟨b, rest, rfl⟩
      · refine ih _ ?_ h rfl
        rw [List.length_drop, ← hn, List.length_cons]
        omega

/-- The bytes of a well-formed character of a text are its encoding. -/
theorem bytes_eq_ofChars_of_mem_symbols {t : Text} {r : Symbol} (h : r ∈ symbols t) (hr : r.isBroken = false) :
    r.bytes = ofChars [r.char] := by
  obtain ⟨b, rest, rfl⟩ := exists_first_of_mem_symbols h
  exact Symbol.bytes_first_eq_ofChars hr

end Text

namespace Text

/-! ## Hexadecimal digits and letters -/

theorem length_hex (k n : Nat) : (hex k n).length = k := by
  induction k generalizing n with
  | zero => rfl
  | succ k ih => rw [hex, List.length_append, ih, List.length_singleton]

theorem digitValue?_hexDigit : ∀ d < 16, digitValue? (hexDigit d) = some d := by decide

theorem foldlM_hex (k n : Nat) : (hex k n).foldlM (pushDigit? 16) 0 = some (n % 16 ^ k) := by
  induction k generalizing n with
  | zero => simp [hex, Nat.mod_one]
  | succ k ih =>
    have hdigit : n % 16 < 16 := Nat.mod_lt n (by decide)
    have hmod : n / 16 % 16 ^ k * 16 + n % 16 = n % 16 ^ (k + 1) := by
      rw [Nat.pow_succ', Nat.mod_mul]
      omega
    rw [hex, List.foldlM_append, ih]
    simp only [Option.bind_eq_bind, Option.bind_some, List.foldlM_cons, List.foldlM_nil, pushDigit?,
      digitValue?_hexDigit _ hdigit, if_pos hdigit, hmod]
    rfl

theorem isUnit_hex {n : Nat} (h : n < 0x10000) : IsUnit (hex 4 n) n := by
  have hne : hex 4 n ≠ [] := List.ne_nil_of_length_pos (by rw [length_hex]; decide)
  have hpow : 16 ^ 4 = 0x10000 := rfl
  refine ⟨length_hex 4 n, ?_⟩
  rw [digits?, if_neg hne, foldlM_hex, hpow, Nat.mod_eq_of_lt h]

theorem escapeLetter?_eq_some {c l : Char} (h : escapeLetter? c = some l) :
    (c.toNat, l) ∈ [(7, 'a'), (8, 'b'), (9, 't'), (10, 'n'), (11, 'v'), (12, 'f'), (13, 'r')] := by
  unfold escapeLetter? at h
  split at h
  case h_8 => exact nomatch h
  all_goals
    obtain rfl := Option.some.inj h
    simp [*]

theorem escapeLetter?_eq_none {c : Char} (h : escapeLetter? c = none) : c.toNat < 7 ∨ 13 < c.toNat := by
  by_contra hrange
  have hcases : c.toNat = 7 ∨ c.toNat = 8 ∨ c.toNat = 9 ∨ c.toNat = 10 ∨ c.toNat = 11 ∨ c.toNat = 12 ∨
      c.toNat = 13 := by omega
  rcases hcases with hc | hc | hc | hc | hc | hc | hc <;> simp [escapeLetter?, hc] at h

theorem ofChars_of_toNat {c : Char} {b : UInt8} (hb : b < 0x80) (h : c.toNat = b.toNat) : ofChars [c] = [b] := by
  rw [← Symbol.ofChars_ascii hb, ← h, Char.ofNat_toNat]

end Text

/-! ## Portable texts -/

/-- Whether a character is written in quoted text as it may be in JSON: it is shown, it has an escape of one letter that
JSON has as well, or it has one of four digits. -/
def Symbol.isPortable (r : Symbol) : Bool :=
  !r.isBroken && (Unicode.isPrintable r.char || [8, 9, 10, 12, 13].contains r.char.toNat ||
    (0x80 ≤ r.char.toNat && r.char.toNat < 0x10000))

/-- Whether all characters of a text are portable. -/
def Text.isPortable (t : Text) : Bool := (symbols t).all Symbol.isPortable

namespace Text

/-- No control character is shown. -/
theorem le_of_isPrintable {c : Char} (h : Unicode.isPrintable c) : 0x20 ≤ c.toNat := by
  simp only [Unicode.isPrintable] at h
  split at h
  · simp only [Bool.and_eq_true, decide_eq_true_eq] at h
    exact h.1
  · omega

/-- What is written for a character is a part of a JSON string that denotes it, if the character is portable, and of
no JSON string otherwise. -/
def IsTold (r : Symbol) (written : Text) : Prop :=
  (r.isPortable ∧ ∀ {u s : Text}, IsBody u s → IsBody (written ++ u) (r.bytes ++ s)) ∨
    (r.isPortable = false ∧ walk .inside written = none)

/-- JSON has no escape for other letters than its own. -/
theorem walk_letter {l : UInt8} (hu : l ≠ byte 'u') (hl : letter? l = none) (u : Text) :
    walk .inside (byte '\\' :: l :: u) = none := by
  have hstart : walk .inside (byte '\\' :: l :: u) = walk .escaped (l :: u) := rfl
  rw [hstart, walk_cons, Spot.next?, if_neg hu, hl]
  rfl

section Escapes

variable {r : Symbol}

theorem isTold_letter (hbytes : r.bytes = ofChars [r.char]) (hr : r.isPortable) {l b : UInt8} (hb : b < 0x80)
    (hc : r.char.toNat = b.toNat) (hl : letter? l = some b) : IsTold r [byte '\\', l] := by
  left
  refine ⟨hr, fun h => ?_⟩
  rw [hbytes, ofChars_of_toNat hb hc]
  exact .letter hl h

theorem isTold_printable (hbytes : r.bytes = ofChars [r.char]) (hr : r.isPortable) (hquote : r.char ≠ '"')
    (hslash : r.char ≠ '\\') (hprintable : Unicode.isPrintable r.char) : IsTold r r.bytes := by
  left
  refine ⟨hr, fun h => ?_⟩
  rw [hbytes]
  exact .char r.char (le_of_isPrintable hprintable) hquote hslash h

/-- Control characters that have a letter of their own. -/
theorem isTold_escapeLetter (hbytes : r.bytes = ofChars [r.char]) (hwhole : r.isBroken = false)
    (hprintable : ¬ Unicode.isPrintable r.char) {l : Char} (h : escapeLetter? r.char = some l) :
    IsTold r [byte '\\', byte l] := by
  have hpair := escapeLetter?_eq_some h
  simp only [List.mem_cons, Prod.mk.injEq, List.not_mem_nil, or_false] at hpair
  have hportable : r.isPortable = [8, 9, 10, 12, 13].contains r.char.toNat := by
    have hlow : ¬ (0x80 ≤ r.char.toNat) := by omega
    simp [Symbol.isPortable, hwhole, hprintable, hlow]
  rcases hpair with ⟨hc, rfl⟩ | ⟨hc, rfl⟩ | ⟨hc, rfl⟩ | ⟨hc, rfl⟩ | ⟨hc, rfl⟩ | ⟨hc, rfl⟩ | ⟨hc, rfl⟩ <;>
    rw [hc] at hportable
  · exact .inr ⟨hportable, walk_letter (by decide) rfl []⟩
  · exact isTold_letter hbytes hportable (b := 8) (by decide) hc rfl
  · exact isTold_letter hbytes hportable (b := 9) (by decide) hc rfl
  · exact isTold_letter hbytes hportable (b := 10) (by decide) hc rfl
  · exact .inr ⟨hportable, walk_letter (by decide) rfl []⟩
  · exact isTold_letter hbytes hportable (b := 12) (by decide) hc rfl
  · exact isTold_letter hbytes hportable (b := 13) (by decide) hc rfl

/-- Characters that are not shown and have no letter are written as numbers. -/
theorem isTold_number (hbytes : r.bytes = ofChars [r.char]) (hwhole : r.isBroken = false)
    (hprintable : ¬ Unicode.isPrintable r.char) (h : escapeLetter? r.char = none) :
    IsTold r (if r.char.toNat < 0x80 then "\\x" ++ hex 2 r.char.toNat
      else if r.char.toNat < 0x10000 then "\\u" ++ hex 4 r.char.toNat else "\\U" ++ hex 8 r.char.toNat) := by
  have hrange := escapeLetter?_eq_none h
  have hportable : r.isPortable = (decide (0x80 ≤ r.char.toNat) && decide (r.char.toNat < 0x10000)) := by
    have hlist : [8, 9, 10, 12, 13].contains r.char.toNat = false := by
      simp only [List.contains_cons, List.contains_nil, Bool.or_false, Bool.or_eq_false_iff, beq_eq_false_iff_ne]
      omega
    rw [Symbol.isPortable, hwhole, hlist, Bool.eq_false_of_not_eq_true hprintable]
    rfl
  by_cases hascii : r.char.toNat < 0x80
  · rw [if_pos hascii]
    exact .inr ⟨by simp [hportable, hascii], walk_letter (l := byte 'x') (by decide) rfl _⟩
  rw [if_neg hascii]
  by_cases hshort : r.char.toNat < 0x10000
  · rw [if_pos hshort]
    refine .inl ⟨by simp [hportable, hshort, not_lt.mp hascii], fun h => ?_⟩
    rw [hbytes]
    exact .unit r.char (isUnit_hex hshort) h
  · rw [if_neg hshort]
    exact .inr ⟨by simp [hportable, hshort], walk_letter (l := byte 'U') (by decide) rfl _⟩

/-- **The escape of a character** is a part of a JSON string if and only if the character is portable. -/
theorem isTold_escape {t : Text} (hr : r ∈ symbols t) : IsTold r (escape r) := by
  rw [escape]
  by_cases hbroken : r.isBroken
  · rw [if_pos hbroken]
    exact .inr ⟨by simp [Symbol.isPortable, hbroken], walk_letter (l := byte 'x') (by decide) rfl _⟩
  have hwhole : r.isBroken = false := Bool.eq_false_of_not_eq_true hbroken
  have hbytes : r.bytes = ofChars [r.char] := bytes_eq_ofChars_of_mem_symbols hr hwhole
  have hshown : Unicode.isPrintable r.char → r.isPortable := fun h => by simp [Symbol.isPortable, hwhole, h]
  rw [if_neg hbroken]
  by_cases hquote : r.char = '"'
  · rw [if_pos hquote]
    exact isTold_letter hbytes (hshown (by rw [hquote]; decide)) (l := byte '"') (b := byte '"') (by decide)
      (by rw [hquote]; rfl) rfl
  rw [if_neg hquote]
  by_cases hslash : r.char = '\\'
  · rw [if_pos hslash]
    exact isTold_letter hbytes (hshown (by rw [hslash]; decide)) (l := byte '\\') (b := byte '\\') (by decide)
      (by rw [hslash]; rfl) rfl
  rw [if_neg hslash]
  by_cases hprintable : Unicode.isPrintable r.char
  · rw [if_pos hprintable]
    exact isTold_printable hbytes (hshown hprintable) hquote hslash hprintable
  rw [if_neg hprintable]
  cases hescape : escapeLetter? r.char with
  | some l => exact isTold_escapeLetter hbytes hwhole hprintable hescape
  | none => exact isTold_number hbytes hwhole hprintable hescape

end Escapes

/-! ## Quoted texts -/

/-- The quoted form of a portable text is a JSON string that denotes the text. -/
theorem isString_quote {t : Text} (h : t.isPortable) : IsString (quote t) t := by
  have hbody : ∀ rs : List Symbol, (∀ r ∈ rs, r ∈ symbols t) → IsBody (rs.flatMap escape) (ofSymbols rs) := by
    intro rs
    induction rs with
    | nil => exact fun _ => .nil
    | cons r rs ih =>
      intro hrs
      have hr := hrs r List.mem_cons_self
      rcases isTold_escape hr with ⟨-, htold⟩ | ⟨hnot, -⟩
      · exact htold (ih fun s hs => hrs s (List.mem_cons_of_mem _ hs))
      · exact absurd (List.all_eq_true.mp h r hr) (by simp [hnot])
  have hall := hbody (symbols t) fun _ hr => hr
  rw [ofSymbols_symbols] at hall
  exact ⟨_, rfl, hall⟩

/-- A walk stops at the quoted form of a text that is not portable. -/
theorem walk_quote {t : Text} (h : t.isPortable = false) (l : Bool) : walk (.outside l) (quote t) = none := by
  have hbody : ∀ rs : List Symbol, (∀ r ∈ rs, r ∈ symbols t) → rs.all Symbol.isPortable = false →
      walk .inside (rs.flatMap escape) = none := by
    intro rs
    induction rs with
    | nil => exact fun _ h => nomatch h
    | cons r rs ih =>
      intro hrs hnot
      rw [List.flatMap_cons, walk_append]
      rcases isTold_escape (hrs r List.mem_cons_self) with ⟨hportable, htold⟩ | ⟨-, hnone⟩
      · have hescape := walk_isBody (htold .nil)
        rw [List.append_nil] at hescape
        rw [List.all_cons, hportable, Bool.true_and] at hnot
        rw [hescape, Option.bind_some]
        exact ih (fun s hs => hrs s (List.mem_cons_of_mem _ hs)) hnot
      · rw [hnone, Option.bind_none]
  have hopen : walk (.outside l) "\"" = some .inside := rfl
  rw [quote, walk_append, walk_append, hopen, Option.bind_some, hbody (symbols t) (fun _ hr => hr) h]
  rfl

/-! ## Bytes of quoted texts -/

theorem le_of_all {t : Text} (h : t.all (0x20 ≤ ·) = true) {b : UInt8} (hb : b ∈ t) : 0x20 ≤ b :=
  of_decide_eq_true (List.all_eq_true.mp h b hb)

theorem le_of_mem_hex {k n : Nat} {b : UInt8} (h : b ∈ hex k n) : 0x20 ≤ b := by
  have hdigit : ∀ d < 16, 0x20 ≤ hexDigit d := by decide
  induction k generalizing n with
  | zero => exact absurd h List.not_mem_nil
  | succ k ih =>
    rcases List.mem_append.mp h with h | h
    · exact ih h
    · rw [List.mem_singleton.mp h]
      exact hdigit _ (Nat.mod_lt n (by decide))

/-- No escape has a control character. -/
theorem le_of_mem_escape {t : Text} {r : Symbol} (hr : r ∈ symbols t) {b : UInt8} (h : b ∈ escape r) : 0x20 ≤ b := by
  have hmark : ∀ {mark digits : Text}, mark.all (0x20 ≤ ·) = true → (∀ c ∈ digits, (0x20 : UInt8) ≤ c) →
      b ∈ mark ++ digits → 0x20 ≤ b :=
    fun hmark hdigits h => (List.mem_append.mp h).elim (le_of_all hmark) (hdigits b)
  rw [escape] at h
  split at h
  · refine hmark (by decide) (fun c hc => ?_) h
    obtain ⟨_, -, hc⟩ := List.mem_flatMap.mp hc
    exact le_of_mem_hex hc
  have hwhole : r.isBroken = false := Bool.eq_false_of_not_eq_true ‹_›
  split at h
  · exact le_of_all (t := "\\\"") (by decide) h
  split at h
  · exact le_of_all (t := "\\\\") (by decide) h
  split at h
  · rw [bytes_eq_ofChars_of_mem_symbols hr hwhole] at h
    have hle := le_of_isPrintable ‹_›
    have hbyte : (0x20 : UInt8).toNat ≤ b.toNat := by
      have hconst : (0x20 : UInt8).toNat = 0x20 := rfl
      rcases toNat_of_mem_ofChars h with heq | ⟨-, hge⟩ <;> omega
    exact UInt8.le_iff_toNat_le.mpr hbyte
  cases hletter : escapeLetter? r.char with
  | some l =>
    rw [hletter] at h
    have hletters : ∀ p ∈ [(7, 'a'), (8, 'b'), (9, 't'), (10, 'n'), (11, 'v'), (12, 'f'), (13, 'r')],
        [byte '\\', byte p.2].all (0x20 ≤ ·) = true := by decide
    exact le_of_all (hletters _ (escapeLetter?_eq_some hletter)) h
  | none =>
    rw [hletter] at h
    simp only at h
    split at h
    · exact hmark (by decide) (fun c hc => le_of_mem_hex hc) h
    split at h
    · exact hmark (by decide) (fun c hc => le_of_mem_hex hc) h
    · exact hmark (by decide) (fun c hc => le_of_mem_hex hc) h

/-- No quoted text has a control character. -/
theorem le_of_mem_quote {t : Text} {b : UInt8} (h : b ∈ quote t) : 0x20 ≤ b := by
  have hmark : ("\"" : Text).all (0x20 ≤ ·) = true := by decide
  rcases List.mem_append.mp h with h | h
  · rcases List.mem_append.mp h with h | h
    · exact le_of_all hmark h
    · obtain ⟨r, hr, hb⟩ := List.mem_flatMap.mp h
      exact le_of_mem_escape hr hb
  · exact le_of_all hmark h

end Text

end Literate
