import Literate.Json.Reader
import Mathlib.Algebra.Order.Field.Rat

/-!
# JSON texts

What a JSON text is, and which value it denotes: `Reads` is the grammar, in which a text is put together from its parts,
and `IsText` adds the white space around the outermost value. A number denotes a rational number, and a string denotes a
text of characters, so that a surrogate stands only together with its other half.

`walk` goes through a text byte by byte and tells strings from what is around them. It lets every JSON text pass
(`walk_of_isText`); a text at which it stops is none.
-/

namespace Literate.Json

open Text

/-- What a JSON text denotes. -/
inductive Tree where
  | null
  | bool (b : Bool)
  | number (q : ℚ)
  | string (t : Text)
  | array (items : List Tree)
  | object (members : List (Text × Tree))

/-! ## Strings -/

/-- Four hexadecimal digits of a number. -/
def IsUnit (ds : Text) (n : Nat) : Prop := ds.length = 4 ∧ digits? 16 ds = some n

/-- What stands between the quotes of a string, and the text that it denotes. -/
inductive IsBody : Text → Text → Prop
  | nil : IsBody [] []
  | char {t s : Text} (c : Char) : 0x20 ≤ c.toNat → c ≠ '"' → c ≠ '\\' → IsBody t s →
      IsBody (ofChars [c] ++ t) (ofChars [c] ++ s)
  | letter {t s : Text} {l b : UInt8} : letter? l = some b → IsBody t s → IsBody (byte '\\' :: l :: t) (b :: s)
  | unit {t s ds : Text} (c : Char) : IsUnit ds c.toNat → IsBody t s →
      IsBody (byte '\\' :: byte 'u' :: ds ++ t) (ofChars [c] ++ s)
  | pair {t s high low : Text} (c : Char) : 0x10000 ≤ c.toNat →
      IsUnit high (0xD800 + (c.toNat - 0x10000) / 0x400) → IsUnit low (0xDC00 + (c.toNat - 0x10000) % 0x400) →
      IsBody t s →
      IsBody (byte '\\' :: byte 'u' :: high ++ byte '\\' :: byte 'u' :: low ++ t) (ofChars [c] ++ s)

/-- A string and the text that it denotes. -/
def IsString (t s : Text) : Prop := ∃ body, t = "\"" ++ body ++ "\"" ∧ IsBody body s

/-! ## Numbers -/

/-- The whole part of a number: digits without needless zeros before them. -/
def IsWhole (t : Text) (n : Nat) : Prop := digits? 10 t = some n ∧ (t.head? = some (byte '0') → t.length = 1)

/-- The fraction of a number: nothing, or digits after a point. -/
def IsFraction (t : Text) (q : ℚ) : Prop :=
  (t = [] ∧ q = 0) ∨ ∃ ds n, t = byte '.' :: ds ∧ digits? 10 ds = some n ∧ q = n / 10 ^ ds.length

/-- The exponent of a number: nothing, or digits after a letter and perhaps a sign. -/
def IsExponent (t : Text) (k : ℤ) : Prop :=
  (t = [] ∧ k = 0) ∨
    ∃ mark sign ds n, t = mark :: sign ++ ds ∧ (mark = byte 'e' ∨ mark = byte 'E') ∧ digits? 10 ds = some n ∧
      ((sign = ("-" : Text) ∧ k = -n) ∨ ((sign = [] ∨ sign = ("+" : Text)) ∧ k = n))

/-- A number and what it denotes. -/
def IsNumber (t : Text) (q : ℚ) : Prop :=
  ∃ minus whole fraction exponent n f k, t = minus ++ whole ++ fraction ++ exponent ∧
    IsWhole whole n ∧ IsFraction fraction f ∧ IsExponent exponent k ∧
    ((minus = [] ∧ q = (n + f) * 10 ^ k) ∨ (minus = ("-" : Text) ∧ q = -((n + f) * 10 ^ k)))

/-! ## Values -/

/-- White space, or nothing. -/
def IsSpace (t : Text) : Prop := ∀ b ∈ t, isBlank b

/-- The parts of a JSON text that are more than a word, a number or a string. -/
inductive Part where
  | value (x : Tree)
  | items (xs : List Tree)
  | member (k : Text) (x : Tree)
  | members (ms : List (Text × Tree))

/-- A text as a part of a JSON text. White space may stand around the items and the names and values of members. -/
inductive Reads : Text → Part → Prop
  | null : Reads "null" (.value .null)
  | true : Reads "true" (.value (.bool true))
  | false : Reads "false" (.value (.bool false))
  | number {t : Text} {q : ℚ} : IsNumber t q → Reads t (.value (.number q))
  | string {t s : Text} : IsString t s → Reads t (.value (.string s))
  | emptyArray {a : Text} : IsSpace a → Reads (byte '[' :: a ++ [byte ']']) (.value (.array []))
  | array {t : Text} {xs : List Tree} : Reads t (.items xs) → Reads (byte '[' :: t ++ [byte ']']) (.value (.array xs))
  | emptyObject {a : Text} : IsSpace a → Reads (123 :: a ++ [125]) (.value (.object []))
  | object {t : Text} {ms : List (Text × Tree)} : Reads t (.members ms) →
      Reads (123 :: t ++ [125]) (.value (.object ms))
  | lastItem {a t b : Text} {x : Tree} : IsSpace a → Reads t (.value x) → IsSpace b → Reads (a ++ t ++ b) (.items [x])
  | item {a t b u : Text} {x : Tree} {xs : List Tree} : IsSpace a → Reads t (.value x) → IsSpace b →
      Reads u (.items xs) → Reads (a ++ t ++ b ++ byte ',' :: u) (.items (x :: xs))
  | member {a b c d name t k : Text} {x : Tree} : IsSpace a → IsString name k → IsSpace b → IsSpace c →
      Reads t (.value x) → IsSpace d → Reads (a ++ name ++ b ++ byte ':' :: c ++ t ++ d) (.member k x)
  | lastMember {t k : Text} {x : Tree} : Reads t (.member k x) → Reads t (.members [(k, x)])
  | nextMember {t u k : Text} {x : Tree} {ms : List (Text × Tree)} : Reads t (.member k x) → Reads u (.members ms) →
      Reads (t ++ byte ',' :: u) (.members ((k, x) :: ms))

/-- A JSON text and what it denotes. -/
def IsText (t : Text) (x : Tree) : Prop :=
  ∃ a u b, t = a ++ u ++ b ∧ IsSpace a ∧ Reads u (.value x) ∧ IsSpace b

/-! ## Walking through a text -/

/-- Where a walk through a text stands. -/
inductive Spot where
  /-- Outside of strings; whether the last byte was an `l`. -/
  | outside (afterL : Bool)
  | inside
  /-- After a backslash. -/
  | escaped
  /-- Before a digit of a unit, after which some more are to come. -/
  | digits (more : Nat)
deriving DecidableEq

/-- One step: outside of strings there are none of the letters `T`, `N` and `I`, and an `s` only as in `false`. -/
def Spot.next? : Spot → UInt8 → Option Spot
  | .outside afterL, b =>
    if b = byte '"' then some .inside
    else if b = byte 'T' ∨ b = byte 'N' ∨ b = byte 'I' ∨ (b = byte 's' ∧ !afterL) then none
    else some (.outside (b = byte 'l'))
  | .inside, b =>
    if b < 0x20 then none
    else if b = byte '"' then some (.outside false)
    else if b = byte '\\' then some .escaped
    else some .inside
  | .escaped, b => if b = byte 'u' then some (.digits 3) else if (letter? b).isSome then some .inside else none
  | .digits more, b =>
    if (digitValue? b).isNone then none else if more = 0 then some .inside else some (.digits (more - 1))

/-- Where a walk through a text comes to; none if it stops on the way. -/
def walk (s : Spot) (t : Text) : Option Spot := t.foldlM Spot.next? s

@[simp] theorem walk_nil (s : Spot) : walk s [] = some s := rfl

theorem walk_cons (s : Spot) (b : UInt8) (t : Text) : walk s (b :: t) = (s.next? b).bind (walk · t) := by
  simp only [walk, List.foldlM_cons]
  rfl

theorem walk_append (s : Spot) (t u : Text) : walk s (t ++ u) = (walk s t).bind (walk · u) := by
  simp only [walk, List.foldlM_append]
  rfl

/-- A walk through a text comes from outside of strings to outside of strings. -/
def Crosses (t : Text) : Prop := ∀ l, ∃ l', walk (.outside l) t = some (.outside l')

section Crosses

variable {t u : Text}

theorem crosses_append (ht : Crosses t) (hu : Crosses u) : Crosses (t ++ u) := by
  intro l
  obtain ⟨l', hl'⟩ := ht l
  rw [walk_append, hl', Option.bind_some]
  exact hu l'

/-- Outside of strings, a walk passes every byte of which no word, number or mark forbids it. -/
theorem crosses_of_forall (h : ∀ b ∈ t, b ≠ byte '"' ∧ b ≠ byte 'T' ∧ b ≠ byte 'N' ∧ b ≠ byte 'I' ∧ b ≠ byte 's') :
    Crosses t := by
  induction t with
  | nil => exact fun l => ⟨l, rfl⟩
  | cons b t ih =>
    intro l
    obtain ⟨hquote, hT, hN, hI, hs⟩ := h b List.mem_cons_self
    obtain ⟨l', hl'⟩ := ih (fun c hc => h c (List.mem_cons_of_mem _ hc)) (b = byte 'l')
    refine ⟨l', ?_⟩
    rw [walk_cons, Spot.next?, if_neg hquote, if_neg (by simp [hT, hN, hI, hs]), Option.bind_some, hl']

theorem crosses_isSpace (h : IsSpace t) : Crosses t := by
  refine crosses_of_forall fun b hb => ?_
  have hblank := h b hb
  simp only [isBlank, Bool.or_eq_true, decide_eq_true_eq, or_assoc] at hblank
  rcases hblank with rfl | rfl | rfl | rfl <;> decide

end Crosses

/-! ### Digits and numbers -/

theorem digitValue?_of_digits? {base : Nat} {ds : Text} {n : Nat} (h : digits? base ds = some n) :
    ∀ b ∈ ds, ∃ d < base, digitValue? b = some d := by
  rw [digits?] at h
  split at h
  · exact nomatch h
  · suffices hfold : ∀ (ds : Text) (m n : Nat), ds.foldlM (pushDigit? base) m = some n →
        ∀ b ∈ ds, ∃ d < base, digitValue? b = some d from hfold ds 0 n h
    intro ds
    induction ds with
    | nil => exact fun _ _ _ b hb => absurd hb List.not_mem_nil
    | cons c ds ih =>
      intro m n hn b hb
      rw [List.foldlM_cons] at hn
      obtain ⟨m', hm', hn⟩ := Option.bind_eq_some_iff.mp hn
      rcases List.mem_cons.mp hb with rfl | hb
      · obtain ⟨d, hd, hpush⟩ := Option.bind_eq_some_iff.mp hm'
        split at hpush
        · exact ⟨d, ‹d < base›, hd⟩
        · exact nomatch hpush
      · exact ih m' n hn b hb

/-- A byte that is a digit is none of the letters at which a walk stops. -/
theorem ne_of_digitValue? {b : UInt8} {d : Nat} (h : digitValue? b = some d) :
    b ≠ byte '"' ∧ b ≠ byte 'T' ∧ b ≠ byte 'N' ∧ b ≠ byte 'I' ∧ b ≠ byte 's' := by
  refine ⟨?_, ?_, ?_, ?_, ?_⟩ <;> rintro rfl <;> exact nomatch h

/-- The bytes of a number are digits, signs, points and the letter of the exponent, which is a hexadecimal digit. -/
theorem mem_isNumber {t : Text} {q : ℚ} (h : IsNumber t q) {b : UInt8} (hb : b ∈ t) :
    (∃ d, digitValue? b = some d) ∨ b = byte '-' ∨ b = byte '+' ∨ b = byte '.' := by
  obtain ⟨minus, whole, fraction, exponent, n, f, k, rfl, ⟨hwhole, -⟩, hfraction, hexponent, hminus⟩ := h
  have hdigits : ∀ {ds : Text} {n : Nat}, digits? 10 ds = some n → b ∈ ds → ∃ d, digitValue? b = some d := by
    intro ds n hds hb
    obtain ⟨d, -, hd⟩ := digitValue?_of_digits? hds b hb
    exact ⟨d, hd⟩
  have hsign : ∀ {sign : Text}, sign = [] ∨ sign = ("-" : Text) ∨ sign = ("+" : Text) → b ∈ sign →
      b = byte '-' ∨ b = byte '+' ∨ b = byte '.' := by
    rintro sign (rfl | rfl | rfl) hb
    · exact absurd hb List.not_mem_nil
    · exact .inl (List.mem_singleton.mp hb)
    · exact .inr (.inl (List.mem_singleton.mp hb))
  rcases List.mem_append.mp hb with hb | hb
  · rcases List.mem_append.mp hb with hb | hb
    · rcases List.mem_append.mp hb with hb | hb
      · exact .inr (hsign (by rcases hminus with h | h <;> simp [h.1]) hb)
      · exact .inl (hdigits hwhole hb)
    · rcases hfraction with ⟨rfl, -⟩ | ⟨ds, _, rfl, hds, -⟩
      · exact absurd hb List.not_mem_nil
      · rcases List.mem_cons.mp hb with rfl | hb
        · exact .inr (.inr (.inr rfl))
        · exact .inl (hdigits hds hb)
  · rcases hexponent with ⟨rfl, -⟩ | ⟨mark, sign, ds, _, rfl, hmark, hds, hsigned⟩
    · exact absurd hb List.not_mem_nil
    · rcases List.mem_append.mp hb with hb | hb
      · rcases List.mem_cons.mp hb with rfl | hb
        · rcases hmark with rfl | rfl
          · exact .inl ⟨14, rfl⟩
          · exact .inl ⟨14, rfl⟩
        · exact .inr (hsign (by rcases hsigned with h | ⟨h | h, -⟩ <;> simp [h]) hb)
      · exact .inl (hdigits hds hb)

theorem crosses_isNumber {t : Text} {q : ℚ} (h : IsNumber t q) : Crosses t := by
  refine crosses_of_forall fun b hb => ?_
  rcases mem_isNumber h hb with ⟨d, hd⟩ | rfl | rfl | rfl
  · exact ne_of_digitValue? hd
  · decide
  · decide
  · decide

/-- No number has a control character. -/
theorem le_of_mem_isNumber {t : Text} {q : ℚ} (h : IsNumber t q) {b : UInt8} (hb : b ∈ t) : 0x20 ≤ b := by
  have hdigit : ∀ n < 0x20, digitValue? (UInt8.ofNat n) = none := by decide
  rcases mem_isNumber h hb with ⟨d, hd⟩ | rfl | rfl | rfl
  · by_contra hlt
    have hnone := hdigit b.toNat (UInt8.lt_iff_toNat_lt.mp (UInt8.not_le.mp hlt))
    rw [UInt8.ofNat_toNat, hd] at hnone
    exact nomatch hnone
  · decide
  · decide
  · decide

/-! ### Strings -/

/-- Inside of a string, a walk passes every byte that is no control character, quote or backslash. -/
theorem walk_inside {t : Text} (h : ∀ b ∈ t, 0x20 ≤ b ∧ b ≠ byte '"' ∧ b ≠ byte '\\') :
    walk .inside t = some .inside := by
  induction t with
  | nil => rfl
  | cons b t ih =>
    obtain ⟨hcontrol, hquote, hslash⟩ := h b List.mem_cons_self
    rw [walk_cons, Spot.next?, if_neg (UInt8.not_lt.mpr hcontrol), if_neg hquote, if_neg hslash, Option.bind_some]
    exact ih fun c hc => h c (List.mem_cons_of_mem _ hc)

/-- A byte of a character is the character itself, or neither of the two is ASCII. -/
theorem toNat_of_mem_ofChars {c : Char} {b : UInt8} (h : b ∈ ofChars [c]) :
    b.toNat = c.toNat ∨ (0x80 ≤ c.toNat ∧ 0x80 ≤ b.toNat) := by
  have hval : c.val.toNat = c.toNat := rfl
  simp only [ofChars, List.flatMap_cons, List.flatMap_nil, List.append_nil, String.utf8EncodeChar, hval] at h
  split at h
  · obtain rfl := List.mem_singleton.mp h
    exact .inl (UInt8.toNat_ofNat_of_lt' (by simp only [UInt8.size]; omega))
  · right
    refine ⟨by omega, ?_⟩
    split at h
    · simp only [List.mem_cons, List.not_mem_nil, or_false] at h
      rcases h with rfl | rfl <;> simp <;> omega
    split at h
    · simp only [List.mem_cons, List.not_mem_nil, or_false] at h
      rcases h with rfl | rfl | rfl <;> simp <;> omega
    · simp only [List.mem_cons, List.not_mem_nil, or_false] at h
      rcases h with rfl | rfl | rfl | rfl <;> simp <;> omega

theorem toNat_byte {c : Char} (h : c.toNat < 0x100) : (byte c).toNat = c.toNat := by
  rw [byte, Char.toUInt8, UInt32.toNat_toUInt8]
  exact Nat.mod_eq_of_lt h

/-- An ASCII character is no byte of another character. -/
theorem ne_byte_of_mem_ofChars {c d : Char} (hd : d.toNat < 0x80) (hne : c ≠ d) {b : UInt8} (hb : b ∈ ofChars [c]) :
    b ≠ byte d := by
  rintro rfl
  have hbyte : (byte d).toNat = d.toNat := toNat_byte (by omega)
  rcases toNat_of_mem_ofChars hb with heq | ⟨-, hge⟩
  · exact hne (Char.toNat_inj.mp (heq.symm.trans hbyte))
  · omega

theorem walk_char {c : Char} (hcontrol : 0x20 ≤ c.toNat) (hquote : c ≠ '"') (hslash : c ≠ '\\') :
    walk .inside (ofChars [c]) = some .inside := by
  refine walk_inside fun b hb => ⟨?_, ?_, ?_⟩
  · have hle : (0x20 : UInt8).toNat ≤ b.toNat := by
      have hconst : (0x20 : UInt8).toNat = 0x20 := rfl
      rcases toNat_of_mem_ofChars hb with heq | ⟨-, hge⟩ <;> omega
    exact UInt8.le_iff_toNat_le.mpr hle
  · exact ne_byte_of_mem_ofChars (by decide) hquote hb
  · exact ne_byte_of_mem_ofChars (by decide) hslash hb

theorem walk_unit {ds : Text} {n : Nat} (h : IsUnit ds n) :
    walk .inside (byte '\\' :: byte 'u' :: ds) = some .inside := by
  obtain ⟨hlength, hdigits⟩ := h
  have hstart : walk .inside (byte '\\' :: byte 'u' :: ds) = walk (.digits 3) ds := rfl
  have hwalk : ∀ (ds : Text) (more : Nat), ds.length = more + 1 → (∀ b ∈ ds, (digitValue? b).isSome) →
      walk (.digits more) ds = some .inside := by
    intro ds
    induction ds with
    | nil => exact fun _ hlength => nomatch hlength
    | cons b ds ih =>
      intro more hlength hall
      have hb := hall b List.mem_cons_self
      rw [List.length_cons] at hlength
      rw [walk_cons, Spot.next?, if_neg (by simpa using Option.isSome_iff_ne_none.mp hb)]
      by_cases hmore : more = 0
      · have hnil : ds = [] := List.length_eq_zero_iff.mp (by omega)
        rw [if_pos hmore, hnil, Option.bind_some, walk_nil]
      · rw [if_neg hmore, Option.bind_some]
        exact ih (more - 1) (by omega) fun c hc => hall c (List.mem_cons_of_mem _ hc)
  rw [hstart]
  refine hwalk ds 3 hlength fun b hb => ?_
  obtain ⟨d, -, hd⟩ := digitValue?_of_digits? hdigits b hb
  rw [hd, Option.isSome_some]

theorem walk_isBody {t s : Text} (h : IsBody t s) : walk .inside t = some .inside := by
  have happend : ∀ {t u : Text}, walk .inside t = some .inside → walk .inside u = some .inside →
      walk .inside (t ++ u) = some .inside := by
    intro t u ht hu
    rw [walk_append, ht, Option.bind_some, hu]
  induction h with
  | nil => rfl
  | char c hcontrol hquote hslash _ ih => exact happend (walk_char hcontrol hquote hslash) ih
  | @letter t s l b hl _ ih =>
    have hu : l ≠ byte 'u' := by
      rintro rfl
      exact nomatch hl
    refine happend (t := [byte '\\', l]) ?_ ih
    have hstart : walk .inside [byte '\\', l] = walk .escaped [l] := rfl
    rw [hstart, walk_cons, Spot.next?, if_neg hu, hl]
    rfl
  | unit c hunit _ ih => exact happend (walk_unit hunit) ih
  | pair c _ hhigh hlow _ ih => exact happend (happend (walk_unit hhigh) (walk_unit hlow)) ih

theorem crosses_isString {t s : Text} (h : IsString t s) : Crosses t := by
  obtain ⟨body, rfl, hbody⟩ := h
  intro l
  refine ⟨false, ?_⟩
  have hopen : walk (.outside l) "\"" = some .inside := rfl
  rw [walk_append, walk_append, hopen, Option.bind_some, walk_isBody hbody]
  rfl

/-! ### Texts -/

theorem crosses_reads {t : Text} {p : Part} (h : Reads t p) : Crosses t := by
  have hmark : ∀ b : UInt8, b ∈ [byte '[', byte ']', 123, 125, byte ',', byte ':'] → Crosses [b] := by
    have hpass : ∀ b ∈ [byte '[', byte ']', 123, 125, byte ',', byte ':'],
        b ≠ byte '"' ∧ b ≠ byte 'T' ∧ b ≠ byte 'N' ∧ b ≠ byte 'I' ∧ b ≠ byte 's' := by decide +kernel
    intro b hb
    exact crosses_of_forall fun c hc => List.mem_singleton.mp hc ▸ hpass b hb
  induction h with
  | null => exact crosses_of_forall (by decide +kernel)
  | true => exact crosses_of_forall (by decide +kernel)
  | false => exact fun l => ⟨false, by cases l <;> rfl⟩
  | number h => exact crosses_isNumber h
  | string h => exact crosses_isString h
  | emptyArray h =>
    exact crosses_append (crosses_append (hmark _ (by simp)) (crosses_isSpace h)) (hmark _ (by simp))
  | array _ ih => exact crosses_append (crosses_append (hmark _ (by simp)) ih) (hmark _ (by simp))
  | emptyObject h =>
    exact crosses_append (crosses_append (hmark _ (by simp)) (crosses_isSpace h)) (hmark _ (by simp))
  | object _ ih => exact crosses_append (crosses_append (hmark _ (by simp)) ih) (hmark _ (by simp))
  | lastItem ha _ hb ih => exact crosses_append (crosses_append (crosses_isSpace ha) ih) (crosses_isSpace hb)
  | item ha _ hb _ ih ihs =>
    refine crosses_append (crosses_append (crosses_append (crosses_isSpace ha) ih) (crosses_isSpace hb)) ?_
    exact crosses_append (t := [byte ',']) (hmark _ (by simp)) ihs
  | member ha hname hb hc _ hd ih =>
    have hbefore := crosses_append (crosses_append (crosses_isSpace ha) (crosses_isString hname)) (crosses_isSpace hb)
    have hcolon := crosses_append (t := [byte ':']) (hmark _ (by simp)) (crosses_isSpace hc)
    exact crosses_append (crosses_append (crosses_append hbefore hcolon) ih) (crosses_isSpace hd)
  | lastMember _ ih => exact ih
  | nextMember _ _ ih ihs => exact crosses_append ih (crosses_append (t := [byte ',']) (hmark _ (by simp)) ihs)

/-- **A walk stops at no JSON text.** -/
theorem walk_of_isText {t : Text} {x : Tree} (h : IsText t x) : (walk (.outside false) t).isSome := by
  obtain ⟨a, u, b, rfl, ha, hu, hb⟩ := h
  obtain ⟨l, hl⟩ := crosses_append (crosses_append (crosses_isSpace ha) (crosses_reads hu)) (crosses_isSpace hb) false
  rw [hl, Option.isSome_some]

end Literate.Json
