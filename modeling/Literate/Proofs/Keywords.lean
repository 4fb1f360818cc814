import Literate.Proofs.OrderedRegex
import Literate.Proofs.Quotation

/-!
# Keywords and their arguments

A line is a directive if it begins with the marker and the words of the directive, up to case, and a blank or nothing
comes after them. The words are joined by an underscore or a hyphen, which are no other characters up to case
(`eq_of_fold_eq_joiner`). What is left then, without the blanks at its ends, are the arguments.

The same is said by a regular expression (`Grammar.keywordRegex`), in which blanks are taken greedily and the arguments
lazily. Its first way to match is the one that takes all blanks before the arguments, and the arguments up to the last
character that is no blank (`first?_arguments`), so that its group has just the arguments.
-/

namespace Literate

open Text

/-! ## ASCII characters of a text -/

namespace Text

variable {t : Text} {r : Symbol}

/-- A character of a text is an ASCII character if its only byte is the byte of that. -/
theorem char_eq_iff (hr : r ∈ symbols t) {a : UInt8} (ha : a < 0x80) : r.char = Char.ofNat a.toNat ↔ r.bytes = [a] := by
  constructor
  · intro hchar
    have hreplacement : ∀ n < 0x80, Char.ofNat n ≠ Symbol.replacement := by decide
    have hwhole : r.isBroken = false := by
      rw [Symbol.isBroken, hchar, beq_false_of_ne (hreplacement _ (UInt8.lt_iff_toNat_lt.mp ha)), Bool.false_and]
    rw [bytes_eq_ofChars_of_mem_symbols hr hwhole, hchar, Symbol.ofChars_ascii ha]
  · intro hbytes
    obtain ⟨b, rest, rfl⟩ := exists_first_of_mem_symbols hr
    obtain ⟨n, hn, -⟩ := Symbol.bytes_first b rest
    rw [hn] at hbytes
    obtain ⟨rfl, -⟩ := List.cons.inj hbytes
    rw [Symbol.first_of_ascii ha]

theorem first_mem_symbols (b : UInt8) (rest : Text) : Symbol.first b rest ∈ symbols (b :: rest) := by
  rw [symbols_cons]
  exact List.mem_cons_self

/-- A text begins with an ASCII character if it begins with its byte. -/
theorem eq_of_char_first {a b : UInt8} (ha : a < 0x80) {rest : Text}
    (h : (Symbol.first b rest).char = Char.ofNat a.toNat) : b = a := by
  obtain ⟨n, hn, -⟩ := Symbol.bytes_first b rest
  rw [(char_eq_iff (first_mem_symbols b rest) ha).mp h] at hn
  exact (List.cons.inj hn).1.symm

/-- An ASCII byte of a character is the only one. -/
theorem bytes_eq_of_mem (hr : r ∈ symbols t) {a : UInt8} (ha : a < 0x80) (h : a ∈ r.bytes) : r.bytes = [a] := by
  obtain ⟨b, rest, rfl⟩ := exists_first_of_mem_symbols hr
  obtain ⟨n, hn, -⟩ := Symbol.bytes_first b rest
  have htail := Symbol.ascii_notMem_first ha b rest
  rw [hn, List.tail_cons] at htail
  rw [hn] at h
  obtain rfl := (List.mem_cons.mp h).resolve_right htail
  rw [Symbol.first_of_ascii ha]

theorem blank_eq_true_iff {c : Char} : CharSet.blank c = true ↔ ∃ b ∈ blanks, c = Char.ofNat b.toNat := by
  have hblanks : (blanks.all fun b => CharSet.blank (Char.ofNat b.toNat)) = true := by decide
  constructor
  · intro h
    simp only [CharSet.blank, Bool.or_eq_true, beq_iff_eq] at h
    rcases h with (((rfl | rfl) | rfl) | rfl) | h
    · exact ⟨32, by decide, rfl⟩
    · exact ⟨9, by decide, rfl⟩
    · exact ⟨10, by decide, rfl⟩
    · exact ⟨13, by decide, rfl⟩
    · exact ⟨12, by decide, by rw [← Char.ofNat_toNat c, h]; rfl⟩
  · rintro ⟨b, hb, rfl⟩
    exact List.all_eq_true.mp hblanks b hb

/-- A character that is a blank is one byte that is one. -/
theorem blank_iff (hr : r ∈ symbols t) : CharSet.blank r.char = true ↔ ∃ b, r.bytes = [b] ∧ isBlank b = true := by
  rw [blank_eq_true_iff]
  constructor
  · rintro ⟨b, hb, hchar⟩
    exact ⟨b, (char_eq_iff hr (ascii_of_mem_blanks b hb)).mp hchar, mem_blanks.mp hb⟩
  · rintro ⟨b, hbytes, hb⟩
    have hmem : b ∈ blanks := mem_blanks.mpr hb
    exact ⟨b, hmem, (char_eq_iff hr (ascii_of_mem_blanks b hmem)).mpr hbytes⟩

/-- No byte of any other character is a blank. -/
theorem isBlank_of_mem_bytes (hr : r ∈ symbols t) (h : CharSet.blank r.char = false) {b : UInt8} (hb : b ∈ r.bytes) :
    isBlank b = false := by
  by_contra hblank
  have hblank : isBlank b = true := Bool.eq_true_of_not_eq_false hblank
  have hbytes := bytes_eq_of_mem hr (ascii_of_mem_blanks b (mem_blanks.mpr hblank)) hb
  exact Bool.false_ne_true (h.symm.trans ((blank_iff hr).mpr ⟨b, hbytes, hblank⟩))

/-! ## Joiners -/

theorem ascii_of_isJoiner {j : UInt8} (h : isJoiner j = true) : j < 0x80 := by
  rcases Bool.or_eq_true_iff.mp h with h | h
  · rw [beq_iff_eq.mp h]
    decide
  · rw [beq_iff_eq.mp h]
    decide

theorem toNat_ofNat_of_ne {n : Nat} (h : Char.ofNat n ≠ '\x00') : (Char.ofNat n).toNat = n := by
  by_cases hn : n.isValidChar
  · exact Symbol.toNat_ofNat_of_isValidChar hn
  · rw [Char.ofNat, dif_neg hn] at h
    exact absurd rfl h

/-- No other character than a joiner is equal to it up to case. -/
theorem eq_of_fold_eq_joiner {j : UInt8} (hj : isJoiner j = true) {c : Char}
    (h : Unicode.fold c = Unicode.fold (Char.ofNat j.toNat)) : c = Char.ofNat j.toNat := by
  have hbytes : ∀ j ∈ [byte '_', byte '-'], Unicode.fold (Char.ofNat j.toNat) = Char.ofNat j.toNat ∧
      (Char.ofNat j.toNat).toNat = j.toNat ∧ Char.ofNat j.toNat ≠ '\x00' ∧ 0 < j.toNat ∧
      (∀ n < 0x80, Unicode.fold (Char.ofNat n) = Char.ofNat j.toNat → n = j.toNat) ∧
      ∀ s ∈ Unicode.foldShifts, s.span.contains (j.toNat - s.delta).toNat = false := by decide +kernel
  have hmem : j ∈ [byte '_', byte '-'] := by simpa [isJoiner] using hj
  obtain ⟨hself, hcode, hne, hpos, hascii, hshifts⟩ := hbytes j hmem
  rw [hself] at h
  by_cases hc : c.toNat < 0x80
  · rw [← Char.ofNat_toNat c, hascii c.toNat hc (by rwa [Char.ofNat_toNat])]
  · rw [Unicode.fold, if_neg hc, Unicode.applyShifts] at h
    cases hfind : Unicode.foldShifts.find? (·.span.contains c.toNat) with
    | none =>
      rw [hfind] at h
      exact h
    | some s =>
      -- a shift would have to lead to the joiner
      rw [hfind] at h
      dsimp only at h
      have hto : (c.toNat + s.delta).toNat = j.toNat := by
        rw [← hcode, ← h, toNat_ofNat_of_ne (by rw [h]; exact hne)]
      have hfrom : (j.toNat - s.delta).toNat = c.toNat := by omega
      have hin := List.find?_some hfind
      have hout := hshifts s (List.mem_of_find?_eq_some hfind)
      rw [hfrom] at hout
      exact absurd (hout.symm.trans hin) Bool.false_ne_true

/-! ## Blanks at the ends -/

/-- Whether a character is a blank. -/
def blankAt (r : Symbol) : Bool := CharSet.blank r.char

theorem ofSymbols_append (rs qs : List Symbol) : ofSymbols (rs ++ qs) = ofSymbols rs ++ ofSymbols qs :=
  List.flatMap_append

theorem ofSymbols_dropWhile {rs : List Symbol} (h : ∀ r ∈ rs, r ∈ symbols t) :
    ofSymbols (rs.dropWhile blankAt) = (ofSymbols rs).dropWhile isBlank := by
  induction rs with
  | nil => rfl
  | cons r rs ih =>
    obtain ⟨hr, hrs⟩ := List.forall_mem_cons.mp h
    have hcons : ofSymbols (r :: rs) = r.bytes ++ ofSymbols rs := List.flatMap_cons
    rw [hcons]
    cases hblank : blankAt r with
    | true =>
      obtain ⟨b, hbytes, hb⟩ := (blank_iff hr).mp hblank
      rw [List.dropWhile_cons_of_pos hblank, ih hrs, hbytes, List.singleton_append, List.dropWhile_cons_of_pos hb]
    | false =>
      rw [List.dropWhile_cons_of_neg (by rw [hblank]; exact Bool.false_ne_true), hcons]
      cases hbytes : r.bytes with
      | nil => exact absurd hbytes (bytes_ne_nil_of_mem_symbols hr)
      | cons b more =>
        have hb : isBlank b = false := isBlank_of_mem_bytes hr hblank (by rw [hbytes]; exact List.mem_cons_self)
        rw [List.cons_append, List.dropWhile_cons_of_neg (by rw [hb]; exact Bool.false_ne_true)]

theorem ofSymbols_rdropWhile {rs : List Symbol} (h : ∀ r ∈ rs, r ∈ symbols t) :
    ofSymbols (rs.rdropWhile blankAt) = (ofSymbols rs).rdropWhile isBlank := by
  induction rs using List.reverseRecOn with
  | nil => rfl
  | append_singleton rs r ih =>
    have hr : r ∈ symbols t := h r (List.mem_append_right _ List.mem_cons_self)
    have hrs : ∀ q ∈ rs, q ∈ symbols t := fun q hq => h q (List.mem_append_left _ hq)
    have hone : ofSymbols [r] = r.bytes := List.append_nil _
    rw [ofSymbols_append, hone]
    cases hblank : blankAt r with
    | true =>
      obtain ⟨b, hbytes, hb⟩ := (blank_iff hr).mp hblank
      rw [List.rdropWhile_concat_pos _ _ _ hblank, ih hrs, hbytes, List.rdropWhile_concat_pos _ _ _ hb]
    | false =>
      rw [List.rdropWhile_concat_neg _ _ _ (by rw [hblank]; exact Bool.false_ne_true), ofSymbols_append, hone]
      obtain ⟨more, b, hbytes⟩ : ∃ more b, r.bytes = more ++ [b] :=
        ⟨_, _, (List.dropLast_append_getLast (bytes_ne_nil_of_mem_symbols hr)).symm⟩
      have hb : isBlank b = false := isBlank_of_mem_bytes hr hblank (by rw [hbytes]; simp)
      rw [hbytes, ← List.append_assoc, List.rdropWhile_concat_neg _ _ _ (by rw [hb]; exact Bool.false_ne_true)]

/-- The characters of a text without the blanks at its ends. -/
theorem ofSymbols_stripped (t : Text) :
    ofSymbols (((symbols t).dropWhile blankAt).rdropWhile blankAt) = trimBlank t := by
  have htrim : trimBlank t = (t.dropWhile isBlank).rdropWhile isBlank := rfl
  rw [ofSymbols_rdropWhile fun r hr => (List.dropWhile_sublist _).subset hr, ofSymbols_dropWhile fun r hr => hr,
    ofSymbols_symbols, htrim]

/-- A text is empty or begins with a blank, and so do its characters. -/
theorem isDetached_eq (t : Text) : isDetached t = (symbols t).head?.all blankAt := by
  cases t with
  | nil => rfl
  | cons b rest =>
    have hmem := first_mem_symbols b rest
    have hb : b ∈ (Symbol.first b rest).bytes := by
      obtain ⟨n, hn, -⟩ := Symbol.bytes_first b rest
      rw [hn]
      exact List.mem_cons_self
    rw [symbols_cons, List.head?_cons, Option.all_some, isDetached, blankAt]
    cases hblank : CharSet.blank (Symbol.first b rest).char with
    | false => exact isBlank_of_mem_bytes hmem hblank hb
    | true =>
      obtain ⟨a, hbytes, ha⟩ := (blank_iff hmem).mp hblank
      rw [hbytes, List.mem_singleton] at hb
      rw [hb, ha]

/-! ## Words -/

theorem dropWords?_cons (w v : Text) (ws : List Text) (t : Text) : dropWords? (w :: v :: ws) t =
    (dropFold? (chars w) t).bind fun t => (dropByte? isJoiner t).bind (dropWords? (v :: ws)) := rfl

theorem dropWords?_cons_eq_some {w v : Text} {ws : List Text} {t rest : Text} :
    dropWords? (w :: v :: ws) t = some rest ↔
      ∃ j u, dropFold? (chars w) t = some (j :: u) ∧ isJoiner j = true ∧ dropWords? (v :: ws) u = some rest := by
  rw [dropWords?_cons, Option.bind_eq_some_iff]
  constructor
  · rintro ⟨u, hw, h⟩
    obtain ⟨x, hx, hws⟩ := Option.bind_eq_some_iff.mp h
    cases u with
    | nil => exact nomatch hx
    | cons j u =>
      obtain ⟨hj, heq⟩ := Option.ite_none_right_eq_some.mp hx
      obtain rfl := Option.some.inj heq
      exact ⟨j, u, hw, hj, hws⟩
  · rintro ⟨j, u, hw, hj, hws⟩
    have hu : dropByte? isJoiner (j :: u) = some u := if_pos hj
    exact ⟨j :: u, hw, by rw [hu, Option.bind_some, hws]⟩

/-- What follows words is the end of the text. -/
theorem suffix_of_dropWords? {words : List Text} {t rest : Text} (h : dropWords? words t = some rest) :
    ∃ x, t = x ++ rest := by
  induction words generalizing t with
  | nil => exact ⟨[], Option.some.inj h⟩
  | cons w ws ih =>
    cases ws with
    | nil => exact suffix_of_dropFold? h
    | cons v ws =>
      obtain ⟨j, u, hw, -, hws⟩ := dropWords?_cons_eq_some.mp h
      obtain ⟨x, rfl⟩ := suffix_of_dropFold? hw
      obtain ⟨y, rfl⟩ := ih hws
      exact ⟨x ++ j :: y, by rw [List.append_assoc, List.cons_append]⟩

end Text

/-! ## The expression of a keyword -/

namespace OrderedRegex

/-- Any character but a line feed. -/
def inLine : CharSet := fun c => c != '\n'

/-- The characters that join the words of a keyword, up to case. -/
def joiner : CharSet := fun c => Unicode.foldEq '_' c || Unicode.foldEq '-' c

/-- Words with a joiner between them, up to case. -/
def spelled : (words : List Text) → OrderedRegex
  | [] => empty
  | [w] => literal (chars w)
  | w :: ws => seq (literal (chars w)) (seq (one joiner) (spelled ws))

theorem joiner_first (b : UInt8) (t : Text) : joiner (Symbol.first b t).char = isJoiner b := by
  rw [Bool.eq_iff_iff]
  constructor
  · intro h
    obtain ⟨j, hj, hfold⟩ : ∃ j, isJoiner j = true ∧
        Unicode.foldEq (Char.ofNat j.toNat) (Symbol.first b t).char = true := by
      rcases Bool.or_eq_true_iff.mp h with h | h
      · exact ⟨byte '_', rfl, h⟩
      · exact ⟨byte '-', rfl, h⟩
    rw [Unicode.foldEq, beq_iff_eq] at hfold
    rwa [eq_of_char_first (ascii_of_isJoiner hj) (eq_of_fold_eq_joiner hj hfold.symm)]
  · intro h
    rw [Symbol.first_of_ascii (ascii_of_isJoiner h)]
    rcases Bool.or_eq_true_iff.mp h with h | h
    · rw [beq_iff_eq.mp h]
      decide
    · rw [beq_iff_eq.mp h]
      decide

/-- What comes after the words of a keyword begins where these are dropped from the text. -/
theorem first?_spelled {γ : Type} (words : List Text) (n : Nat) : ∃ m, ∀ (t : Text) (k : Cursor → Option γ),
    (spelled words).first? ⟨n, symbols t, []⟩ k = (dropWords? words t).bind fun u => k ⟨m, symbols u, []⟩ := by
  induction words generalizing n with
  | nil => exact ⟨n, fun t k => first?_empty _ k⟩
  | cons w ws ih =>
    cases ws with
    | nil => exact ⟨n + (chars w).length, fun t k => first?_literal (chars w) n t k⟩
    | cons v ws =>
      obtain ⟨m, hm⟩ := ih (n + (chars w).length + 1)
      refine ⟨m, fun t k => ?_⟩
      have hspelled : spelled (w :: v :: ws) = seq (literal (chars w)) (seq (one joiner) (spelled (v :: ws))) := rfl
      rw [hspelled, first?_seq, first?_literal, dropWords?_cons, Option.bind_assoc]
      congr
      funext u
      rw [first?_seq, Option.bind_assoc]
      cases u with
      | nil => exact first?_one_nil _
      | cons b u =>
        rw [symbols_cons, first?_one_cons, joiner_first, dropByte?]
        cases hb : isJoiner b with
        | false => rfl
        | true =>
          rw [if_pos rfl, if_pos rfl, Option.bind_some, Symbol.first_of_ascii (ascii_of_isJoiner hb)]
          exact hm u k

/-- The arguments up to the end of the text: if there are blanks, all of them and then the group, and after that blanks
again. -/
def arguments : OrderedRegex :=
  seq (optional (seq (one CharSet.blank) (seq (many CharSet.blank false) (group (many inLine true)))))
    (seq (many CharSet.blank false) stop)

/-- **What the arguments take**: if the first character is a blank, or there is none, all that is left, and for the
group what stands between the blanks at its ends. -/
theorem first?_arguments {rs : List Symbol} (hfeed : ∀ r ∈ rs, r.char ≠ '\n') (n : Nat) :
    (arguments.first? ⟨n, rs, []⟩ some).map Cursor.group =
      if rs.head?.all blankAt then some ((rs.dropWhile blankAt).rdropWhile blankAt) else none := by
  rw [arguments, first?_seq, first?_optional]
  cases rs with
  | nil => rw [first?_seq, first?_one_nil, Option.none_or, first?_greedy_stop]; rfl
  | cons r rest =>
    rw [first?_seq, first?_one_cons, List.head?_cons, Option.all_some]
    cases hr : blankAt r with
    | false =>
      have hall : (r :: rest).all (CharSet.blank ·.char) = false := by
        rw [List.all_cons, show CharSet.blank r.char = false from hr, Bool.false_and]
      rw [if_neg (by rw [show CharSet.blank r.char = false from hr]; exact Bool.false_ne_true), Option.none_or,
        first?_greedy_stop, if_neg (by rw [hall]; exact Bool.false_ne_true), if_neg Bool.false_ne_true]
      rfl
    | true =>
      -- all blanks are taken before the group, and then the arguments as far as something else than a blank is to come
      rw [if_pos (show CharSet.blank r.char = true from hr), if_pos rfl, List.dropWhile_cons_of_pos hr]
      have hrest : ∀ q ∈ rest.dropWhile blankAt, inLine q.char := fun q hq =>
        bne_iff_ne.mpr (hfeed q (List.mem_cons_of_mem _ ((List.dropWhile_sublist _).subset hq)))
      generalize hcore : (rest.dropWhile blankAt).rdropWhile blankAt = core
      generalize hafter : (rest.dropWhile blankAt).rtakeWhile blankAt = after
      have hsplit : rest.dropWhile blankAt = core ++ after := by
        rw [← hcore, ← hafter, List.rdropWhile_append_rtakeWhile]
      have hblanks : after.all (CharSet.blank ·.char) = true := by
        rw [List.all_eq_true, ← hafter]
        exact fun q hq => (List.mem_rtakeWhile_imp hq : blankAt q = true)
      have hlast : ∀ before q more, core = before ++ q :: more →
          (q :: more ++ after).all (CharSet.blank ·.char) = false := by
        intro before q more heq
        obtain ⟨e, he⟩ : ∃ e, (q :: more).getLast? = some e :=
          ⟨_, List.getLast?_eq_some_getLast (List.cons_ne_nil q more)⟩
        have hend : core.getLast? = some e := by rw [heq, List.getLast?_append_cons, he]
        have hblank : ¬ blankAt e = true := last_rdropWhile (by rw [hcore, hend])
        rw [← Bool.not_eq_true, List.all_eq_true]
        exact fun hall => hblank (hall e (List.mem_append_left _ (List.mem_of_getLast? he)))
      have htaken : (seq (many CharSet.blank false) (group (many inLine true))).first? ⟨n + 1, rest, []⟩
          (fun d => (seq (many CharSet.blank false) stop).first? d some) =
            some ⟨n + 1 + (rest.takeWhile blankAt).length + core.length + after.length, [], core⟩ := by
        rw [first?_seq]
        refine first?_greedy ?_
        rw [show rest.dropWhile (CharSet.blank ·.char) = core ++ after from hsplit, first?_group]
        refine first?_lazy (fun q hq => hrest q ?_) (fun before q more heq => ?_) ?_
        · rw [hsplit]
          exact List.mem_append_left _ hq
        · rw [first?_greedy_stop, if_neg (by rw [hlast before q more heq]; exact Bool.false_ne_true)]
        · simp only [first?_greedy_stop, if_pos hblanks, Nat.add_sub_cancel_left, List.take_left]
          rfl
      rw [htaken, Option.some_or]
      rfl

end OrderedRegex

/-! ## The spelling of a keyword -/

namespace Text

/-- Words with a joiner between them. -/
inductive IsJoined : (words : List Text) → Text → Prop
  | one (w : Text) : IsJoined [w] w
  | cons {w : Text} {j : UInt8} {ws : List Text} {t : Text} (hj : isJoiner j = true) (h : IsJoined ws t) :
    IsJoined (w :: ws) (w ++ j :: t)

/-- What follows a prefix are the characters after as many that are the same up to case. -/
theorem dropFold?_eq_some_iff {p : List Char} {t rest : Text} : dropFold? p t = some rest ↔
    ∃ rs, symbols t = rs ++ symbols rest ∧ rs.map (fun r => Unicode.fold r.char) = p.map Unicode.fold := by
  induction p generalizing t with
  | nil =>
    rw [dropFold?, Option.some.injEq]
    constructor
    · rintro rfl
      exact ⟨[], rfl, rfl⟩
    · rintro ⟨rs, heq, hmap⟩
      obtain rfl := List.map_eq_nil_iff.mp hmap
      rw [← ofSymbols_symbols t, heq, List.nil_append, ofSymbols_symbols]
  | cons c p ih =>
    cases t with
    | nil =>
      refine iff_of_false (Option.some_ne_none rest).symm ?_
      rintro ⟨rs, heq, hmap⟩
      obtain rfl := (List.append_eq_nil_iff.mp heq.symm).1
      cases hmap
    | cons b t =>
      rw [dropFold?_cons_eq_some, ih, symbols_cons, Unicode.foldEq, beq_iff_eq]
      constructor
      · rintro ⟨hc, rs, heq, hmap⟩
        exact ⟨Symbol.first b t :: rs, by rw [heq, List.cons_append], by rw [List.map_cons, hmap, List.map_cons, hc]⟩
      · rintro ⟨rs, heq, hmap⟩
        cases rs with
        | nil => cases hmap
        | cons r rs =>
          rw [List.cons_append] at heq
          obtain ⟨rfl, hrest⟩ := List.cons.inj heq
          obtain ⟨hc, hmore⟩ := List.cons.inj hmap
          exact ⟨hc.symm, rs, hrest, hmore⟩

theorem dropFold?_concat (p q : List Char) (t : Text) :
    dropFold? (p ++ q) t = (dropFold? p t).bind (dropFold? q) := by
  induction p generalizing t with
  | nil => rfl
  | cons c p ih =>
    cases t with
    | nil => rfl
    | cons b t =>
      rw [List.cons_append, dropFold?, dropFold?, ih]
      split <;> rfl

theorem chars_append {a : UInt8} (ha : a < 0x80) (t rest : Text) :
    chars (t ++ a :: rest) = chars t ++ chars (a :: rest) := by
  unfold chars
  rw [symbols_append ha, List.map_append]

/-- A joiner up to case is just that byte. -/
theorem dropFold?_joiner {j : UInt8} (hj : isJoiner j = true) {p : List Char} {t rest : Text} :
    dropFold? (Char.ofNat j.toNat :: p) t = some rest ↔ ∃ u, t = j :: u ∧ dropFold? p u = some rest := by
  constructor
  · intro h
    cases t with
    | nil => exact nomatch h
    | cons b t =>
      obtain ⟨hb, hp⟩ := dropFold?_cons_eq_some.mp h
      rw [Unicode.foldEq, beq_iff_eq] at hb
      obtain rfl := eq_of_char_first (ascii_of_isJoiner hj) (eq_of_fold_eq_joiner hj hb.symm)
      rw [Symbol.first_of_ascii (ascii_of_isJoiner hj)] at hp
      exact ⟨t, rfl, hp⟩
  · rintro ⟨u, rfl, h⟩
    have hself : Unicode.foldEq (Char.ofNat j.toNat) (Char.ofNat j.toNat) = true := beq_self_eq_true _
    rw [dropFold?_ascii (ascii_of_isJoiner hj), if_pos hself, h]

theorem dropFold?_joined {j : UInt8} (hj : isJoiner j = true) {w s t rest : Text} :
    dropFold? (chars (w ++ j :: s)) t = some rest ↔
      ∃ u, dropFold? (chars w) t = some (j :: u) ∧ dropFold? (chars s) u = some rest := by
  have hchars : chars (j :: s) = Char.ofNat j.toNat :: chars s := by
    rw [chars_cons, Symbol.first_of_ascii (ascii_of_isJoiner hj)]
    rfl
  rw [chars_append (ascii_of_isJoiner hj), hchars, dropFold?_concat, Option.bind_eq_some_iff]
  constructor
  · rintro ⟨_, hw, hjs⟩
    obtain ⟨u, rfl, hs⟩ := (dropFold?_joiner hj).mp hjs
    exact ⟨u, hw, hs⟩
  · rintro ⟨u, hw, hs⟩
    exact ⟨j :: u, hw, (dropFold?_joiner hj).mpr ⟨u, rfl, hs⟩⟩

/-- The words are dropped from a text if some way to join them is. -/
theorem dropWords?_eq_some_iff {words : List Text} (hne : words ≠ []) {t rest : Text} :
    dropWords? words t = some rest ↔ ∃ s, IsJoined words s ∧ dropFold? (chars s) t = some rest := by
  induction words generalizing t with
  | nil => exact absurd rfl hne
  | cons w ws ih =>
    cases ws with
    | nil =>
      constructor
      · exact fun h => ⟨w, .one w, h⟩
      · rintro ⟨s, hs, h⟩
        cases hs with
        | one => exact h
        | cons hj hs => cases hs
    | cons v ws =>
      rw [dropWords?_cons_eq_some]
      constructor
      · rintro ⟨j, u, hw, hj, hws⟩
        obtain ⟨s, hs, hrest⟩ := (ih (List.cons_ne_nil v ws)).mp hws
        exact ⟨w ++ j :: s, .cons hj hs, (dropFold?_joined hj).mpr ⟨u, hw, hrest⟩⟩
      · rintro ⟨s, hs, h⟩
        cases hs with
        | @cons _ j _ s hj hs =>
          obtain ⟨u, hw, hrest⟩ := (dropFold?_joined hj).mp h
          exact ⟨j, u, hw, hj, (ih (List.cons_ne_nil v ws)).mpr ⟨s, hs, hrest⟩⟩

/-- What is dropped from a text is a start of it that is the same up to case, if a blank or nothing comes after it. -/
theorem dropFold?_eq_some_iff_of_isDetached {p t rest : Text} (hrest : isDetached rest = true) :
    dropFold? (chars p) t = some rest ↔ ∃ head, t = head ++ rest ∧ foldEq head p = true := by
  simp only [dropFold?_eq_some_iff, foldEq, beq_iff_eq]
  constructor
  · rintro ⟨rs, heq, hmap⟩
    refine ⟨ofSymbols rs, ?_, ?_⟩
    · rw [← ofSymbols_symbols t, heq, ofSymbols_append, ofSymbols_symbols]
    · rw [chars, symbols_ofSymbols_of_append heq, List.map_map]
      exact hmap
  · rintro ⟨head, rfl, hfold⟩
    refine ⟨symbols head, ?_, ?_⟩
    · cases rest with
      | nil => rw [List.append_nil]; exact (List.append_nil _).symm
      | cons b rest => exact symbols_append (ascii_of_mem_blanks b (mem_blanks.mpr hrest)) head rest
    · rw [← hfold, chars, List.map_map]
      rfl

/-! ## Arguments -/

/-- The arguments are what is left of a text without the blanks at its ends, and nothing else is changed. -/
structure IsStripped (rest args : Text) : Prop where
  cut : ∃ before after, rest = before ++ args ++ after ∧ ∀ b ∈ before ++ after, isBlank b = true
  head : ∀ b, args.head? = some b → isBlank b = false
  last : ∀ b, args.getLast? = some b → isBlank b = false

theorem dropWhile_blanks {before t : Text} (hbefore : ∀ b ∈ before, isBlank b = true)
    (hhead : ∀ b, t.head? = some b → isBlank b = false) : (before ++ t).dropWhile isBlank = t := by
  rw [List.dropWhile_append_of_pos hbefore]
  cases t with
  | nil => rfl
  | cons b t => rw [List.dropWhile_cons_of_neg (by rw [hhead b rfl]; exact Bool.false_ne_true)]

theorem isStripped_iff {rest args : Text} : IsStripped rest args ↔ args = trimBlank rest := by
  constructor
  · rintro ⟨⟨before, after, rfl, hblank⟩, hhead, hlast⟩
    have hbefore : ∀ b ∈ before, isBlank b = true := fun b hb => hblank b (List.mem_append_left _ hb)
    have hafter : ∀ b ∈ after, isBlank b = true := fun b hb => hblank b (List.mem_append_right _ hb)
    cases args with
    | nil =>
      have hall : (before ++ [] ++ after).dropWhile isBlank = [] :=
        List.dropWhile_eq_nil_iff.mpr fun b hb => hblank b (by rwa [List.append_nil] at hb)
      unfold trimBlank trim
      rw [hall]
      rfl
    | cons a args =>
      have hends : ((a :: args ++ after).reverse.dropWhile isBlank).reverse = a :: args := by
        rw [List.reverse_append, dropWhile_blanks (fun b hb => hafter b (List.mem_reverse.mp hb))
          (fun b hb => hlast b (by rw [← hb, List.head?_reverse])), List.reverse_reverse]
      have hstart : (before ++ (a :: args ++ after)).dropWhile isBlank = a :: args ++ after :=
        dropWhile_blanks hbefore hhead
      unfold trimBlank trim trimEnd
      rw [List.append_assoc, hstart, hends]
  · rintro rfl
    refine ⟨⟨rest.takeWhile isBlank, (rest.dropWhile isBlank).rtakeWhile isBlank, ?_, fun b hb => ?_⟩,
      fun b hb => isBlank_of_trimBlank (.inl hb), fun b hb => isBlank_of_trimBlank (.inr hb)⟩
    · have htrim : trimBlank rest = (rest.dropWhile isBlank).rdropWhile isBlank := rfl
      rw [htrim, List.append_assoc, List.rdropWhile_append_rtakeWhile, List.takeWhile_append_dropWhile]
    · rcases List.mem_append.mp hb with hb | hb
      · exact List.mem_takeWhile_imp hb
      · exact List.mem_rtakeWhile_imp hb

end Text

/-! ## Keywords -/

namespace Grammar

variable (g : Grammar)

/-- The expression of a keyword: the marker and the words, and then the arguments. -/
def keywordRegex (words : List Text) : OrderedRegex :=
  .seq .start (.seq (.literal (chars g.marker)) (.seq (.spelled words) .arguments))

variable {g}

/-- The expression takes for its group what the matcher gives, in a text without line feeds. -/
theorem keyword?_eq_submatch? (words : List Text) {body : Text} (h : byte '\n' ∉ body) :
    g.keyword? words body = (g.keywordRegex words).submatch? body := by
  obtain ⟨m, hm⟩ := OrderedRegex.first?_spelled (γ := Cursor) words (0 + (chars g.marker).length)
  rw [keywordRegex, OrderedRegex.submatch?_start, OrderedRegex.first?_seq, OrderedRegex.first?_literal, keyword?,
    dropMarker?, Option.map_bind]
  cases hmarker : dropFold? (chars g.marker) body with
  | none => rfl
  | some t =>
    rw [Option.bind_some, Option.bind_some, Function.comp, OrderedRegex.first?_seq, hm, Option.map_bind]
    cases hwords : dropWords? words t with
    | none => rfl
    | some rest =>
      have hfeed : ∀ r ∈ symbols rest, r.char ≠ '\n' := by
        intro r hr hchar
        obtain ⟨x, rfl⟩ := suffix_of_dropFold? hmarker
        obtain ⟨y, rfl⟩ := suffix_of_dropWords? hwords
        have hbytes : r.bytes = [byte '\n'] := (char_eq_iff hr (by decide)).mp hchar
        have hmem : byte '\n' ∈ rest := by
          rw [← ofSymbols_symbols rest]
          exact List.mem_flatMap.mpr ⟨r, hr, by rw [hbytes]; exact List.mem_cons_self⟩
        exact h (List.mem_append_right x (List.mem_append_right y hmem))
      rw [Option.bind_some, Option.bind_some, Function.comp, isDetached_eq]
      have hgroup (o : Option Cursor) :
          o.map (fun c => ofSymbols c.group) = (o.map Cursor.group).map ofSymbols := (Option.map_map ..).symm
      rw [hgroup, OrderedRegex.first?_arguments hfeed m, ← ofSymbols_stripped]
      split <;> rfl

/-- **What a keyword is**: the marker and the joined words up to case, and then nothing or a blank. The arguments are
what is left, without the blanks at its ends. -/
theorem keyword?_eq_some_iff {a : UInt8} (ha : a < 0x80) {w : Text} {ws : List Text} {body args : Text} :
    g.keyword? ((a :: w) :: ws) body = some args ↔
      ∃ spelling head rest, IsJoined ((a :: w) :: ws) spelling ∧ body = head ++ rest ∧
        foldEq head (g.marker ++ spelling) = true ∧ isDetached rest = true ∧ IsStripped rest args := by
  have hmarker {spelling : Text} (hs : IsJoined ((a :: w) :: ws) spelling) (rest : Text) :
      (dropFold? (chars g.marker) body).bind (dropFold? (chars spelling)) = some rest ↔
        dropFold? (chars (g.marker ++ spelling)) body = some rest := by
    obtain ⟨s, rfl⟩ : ∃ s, spelling = a :: s := by cases hs <;> exact ⟨_, rfl⟩
    rw [← dropFold?_concat, ← chars_append ha]
  constructor
  · intro h
    obtain ⟨t, ht, h⟩ := Option.bind_eq_some_iff.mp h
    obtain ⟨rest, hrest, h⟩ := Option.bind_eq_some_iff.mp h
    obtain ⟨hdetached, h⟩ := Option.ite_none_right_eq_some.mp h
    obtain ⟨spelling, hs, hrest⟩ := (dropWords?_eq_some_iff (List.cons_ne_nil _ _)).mp hrest
    have hdrop := (hmarker hs rest).mp (Option.bind_eq_some_iff.mpr ⟨t, ht, hrest⟩)
    obtain ⟨head, hbody, hfold⟩ := (dropFold?_eq_some_iff_of_isDetached hdetached).mp hdrop
    exact ⟨spelling, head, rest, hs, hbody, hfold, hdetached, isStripped_iff.mpr (Option.some.inj h).symm⟩
  · rintro ⟨spelling, head, rest, hs, hbody, hfold, hdetached, hargs⟩
    have hdrop := (dropFold?_eq_some_iff_of_isDetached hdetached).mpr ⟨head, hbody, hfold⟩
    obtain ⟨t, ht, hrest⟩ := Option.bind_eq_some_iff.mp ((hmarker hs rest).mpr hdrop)
    have hwords := (dropWords?_eq_some_iff (List.cons_ne_nil _ _)).mpr ⟨spelling, hs, hrest⟩
    rw [keyword?, dropMarker?, ht, Option.bind_some, hwords, Option.bind_some, if_pos hdetached,
      isStripped_iff.mp hargs]

/-- A directive other than print and those of regions is a keyword, whose first word begins with a letter. -/
theorem exists_keyword {d : Directive} (hd : d ∉ [.beginRegion, .endRegion, .print]) :
    ∃ a w ws, a < 0x80 ∧ d.words = (a :: w) :: ws ∧ ∀ g : Grammar, ∀ l, g.match? d l = g.keyword? d.words l.body := by
  have hletter : ∀ d ∈ Directive.table, d.verb.head?.any (· < 0x80) = true := by decide
  obtain ⟨a, hhead, ha⟩ := (Option.any_eq_true _ _).mp (hletter d d.mem_table)
  obtain ⟨w, hw⟩ := List.head?_eq_some_iff.mp hhead
  refine ⟨a, w, d.words.tail, of_decide_eq_true ha, by rw [← hw, ← d.words_eq], fun g l => ?_⟩
  cases d with
  | beginRegion | endRegion | print => simp at hd
  | _ => rfl

/-- **Keywords are matched as they are spelled.** In a line without line feeds in its content, every directive but
print and those of regions is what the expression of its keyword matches, and its arguments are the group. That is so if
and only if the content begins with the marker and the words with joiners between them, up to case, and nothing or a
blank comes then. The arguments are what is left without the blanks at its ends. Case is that of characters: a byte that
belongs to none is read as U+FFFD. -/
theorem keyword_spelled (g : Grammar) {d : Directive} (hd : d ∉ [.beginRegion, .endRegion, .print])
    {l : LogicalLine} (hl : byte '\n' ∉ l.body) :
    g.match? d l = (g.keywordRegex d.words).submatch? l.body ∧
    ∀ args, g.match? d l = some args ↔ ∃ spelling head rest, IsJoined d.words spelling ∧ l.body = head ++ rest ∧
      foldEq head (g.marker ++ spelling) = true ∧ isDetached rest = true ∧ IsStripped rest args := by
  obtain ⟨a, w, ws, ha, hwords, hmatch⟩ := exists_keyword hd
  rw [hmatch]
  refine ⟨g.keyword?_eq_submatch? d.words hl, fun args => ?_⟩
  rw [hwords]
  exact keyword?_eq_some_iff ha

/-- The Kelvin sign for a letter of the marker, a long s in a word and a hyphen between the words; other white space and
broken bytes among the arguments are left as they are. -/
theorem keyword_spelled_guised :
    let g : Grammar := ⟨"K:", ["litweb"]⟩
    let args : Text := ("\u00A0a  b " : Text) ++ [0x80] ++ ("\u0085" : Text)
    let l : LogicalLine := ⟨("\u212A:u\u017Fe-CHUNK \t" : Text) ++ args ++ (" \t" : Text), "\n", ⟨"f", 2⟩⟩
    Directive.use .chunk ∉ [Directive.beginRegion, .endRegion, .print] ∧ byte '\n' ∉ l.body ∧
      (g.keywordRegex ["use", "chunk"]).submatch? l.body = some args ∧
      ∃ spelling head rest, IsJoined ["use", "chunk"] spelling ∧ l.body = head ++ rest ∧
        foldEq head (g.marker ++ spelling) = true ∧ isDetached rest = true ∧ IsStripped rest args := by
  intro g args l
  have hd : Directive.use .chunk ∉ [Directive.beginRegion, .endRegion, .print] := by decide
  have hl : byte '\n' ∉ l.body := by decide
  have hmatch : g.match? (.use .chunk) l = some args := by decide
  obtain ⟨hregex, hargs⟩ := keyword_spelled g hd hl
  exact ⟨hd, hl, hregex.symm.trans hmatch, (hargs args).mp hmatch⟩

end Grammar

end Literate
