import Literate.Proofs.Recognition

/-!
# A line is one directive at most

Directives are told apart by their first word, the *verb*, and those that share a verb by what follows it. Up to case
a text begins with one word only, if words end where a blank does (`dropFold?_detached`), and the tag of a region is
never the name of a namespace (`fold_chars_ne_of_isTag`).

The print directive is looked for in a line with its ending, all others in its content. A content that begins with the
marker and a verb makes a line that does so, whatever its ending is (`dropFold?_append_of_head`,
`dropFold?_append_of_proper`).

The main statement is that a line is one directive at most, so that the order of the table does not matter, and a line
delimits a region inside of regions if and only if it does so outside (`classify_unambiguous`).
-/

namespace Literate

open Text

/-! ## Characters that are read whatever follows them -/

namespace Symbol

/-- A byte that goes on with a sequence begins none. -/
theorem char_first_of_continuation {b : UInt8} (h : isContinuation b = true) (rest : Text) :
    (first b rest).char = replacement := by
  simp only [isContinuation, Bool.and_eq_true, decide_eq_true_eq] at h
  have hascii : ¬ b < 0x80 := UInt8.not_lt.mpr h.1
  have hpair : ∀ c, isPair b c = false := by
    intro c
    have : ¬ (0xC2 ≤ b) := fun h' => absurd (UInt8.le_trans h' h.2) (by decide)
    simp [isPair, this]
  have htriple : ∀ c d, isTriple b c d = false := by
    intro c d
    have : ¬ (0xE0 ≤ b) := fun h' => absurd (UInt8.le_trans h' h.2) (by decide)
    simp [isTriple, this]
  have hquadruple : ∀ c d e, isQuadruple b c d e = false := by
    intro c d e
    have : ¬ (0xF0 ≤ b) := fun h' => absurd (UInt8.le_trans h' h.2) (by decide)
    simp [isQuadruple, this]
  unfold first
  rw [if_neg hascii]
  rcases rest with _ | ⟨c, _ | ⟨d, _ | ⟨e, rest⟩⟩⟩ <;> simp [hpair, htriple, hquadruple]

/-- A character other than the replacement is read from its own bytes alone. -/
theorem first_append_of_char_ne {b : UInt8} {t : Text} (h : (first b t).char ≠ replacement) (more : Text) :
    first b (t ++ more) = first b t := by
  unfold first at h ⊢
  split
  · rfl
  · rename_i hb
    rw [if_neg hb] at h
    match t with
    | [] => exact absurd rfl h
    | [c] =>
      simp only [List.cons_append, List.nil_append] at h ⊢
      split
      · rfl
      · rename_i hp
        rw [if_neg hp] at h
        exact absurd rfl h
    | [c, d] =>
      simp only [List.cons_append, List.nil_append] at h ⊢
      split
      · rfl
      · rename_i hp
        rw [if_neg hp] at h
        split
        · rfl
        · rename_i ht
          rw [if_neg ht] at h
          exact absurd rfl h
    | c :: d :: e :: t => rfl

end Symbol

/-! ## Prefixes up to case -/

namespace Text

/-- What follows a prefix is the end of the text. -/
theorem suffix_of_dropFold? {p : List Char} {t u : Text} (h : dropFold? p t = some u) : ∃ x, t = x ++ u := by
  induction p generalizing t with
  | nil => exact ⟨[], Option.some.inj h⟩
  | cons c p ih =>
    cases t with
    | nil => cases h
    | cons b rest =>
      simp only [dropFold?] at h
      split at h
      · obtain ⟨x, hx⟩ := ih h
        exact ⟨b :: rest.take ((Symbol.first b rest).bytes.length - 1) ++ x, by
          rw [List.append_assoc, ← hx, List.cons_append, List.take_append_drop]⟩
      · cases h

/-- The first character of a prefix is that of the text up to case. -/
theorem dropFold?_cons_eq_some {c : Char} {p : List Char} {b : UInt8} {rest u : Text} :
    dropFold? (c :: p) (b :: rest) = some u ↔ Unicode.foldEq c (Symbol.first b rest).char = true ∧
      dropFold? p (rest.drop ((Symbol.first b rest).bytes.length - 1)) = some u := by
  rw [dropFold?]
  by_cases h : Unicode.foldEq c (Symbol.first b rest).char = true
  · simp [h]
  · simp [h]

/-- A text goes on alike after a prefix, if what follows the prefix begins with a byte that begins a character. -/
theorem dropFold?_append_of_head {p : List Char} {t u : Text} {a : UInt8} (h : dropFold? p t = some (a :: u))
    (ha : Symbol.isContinuation a = false) (more : Text) : dropFold? p (t ++ more) = some (a :: u ++ more) := by
  induction p generalizing t with
  | nil =>
    obtain rfl := Option.some.inj h
    rfl
  | cons c p ih =>
    cases t with
    | nil => cases h
    | cons b rest =>
      obtain ⟨hc, hp⟩ := dropFold?_cons_eq_some.mp h
      have hle := length_first_le b rest
      -- the character ends before the byte `a`
      obtain ⟨x, hx⟩ := suffix_of_dropFold? hp
      have hsame : Symbol.first b (rest ++ more) = Symbol.first b rest := by
        have hrest : rest = (rest.take ((Symbol.first b rest).bytes.length - 1) ++ x) ++ a :: u := by
          rw [List.append_assoc, ← hx, List.take_append_drop]
        generalize rest.take ((Symbol.first b rest).bytes.length - 1) ++ x = y at hrest
        subst hrest
        rw [List.append_assoc, List.cons_append, Symbol.first_append ha, Symbol.first_append ha]
      rw [List.cons_append]
      refine dropFold?_cons_eq_some.mpr ?_
      rw [hsame, List.drop_append_of_le_length hle]
      exact ⟨hc, ih hp⟩

/-- A prefix without the replacement character is the same in every longer text. -/
theorem dropFold?_append_of_proper {p : List Char} (hp : ∀ c ∈ p, Unicode.foldEq c Symbol.replacement = false)
    {t u : Text} (h : dropFold? p t = some u) (more : Text) : dropFold? p (t ++ more) = some (u ++ more) := by
  induction p generalizing t with
  | nil =>
    obtain rfl := Option.some.inj h
    rfl
  | cons c p ih =>
    cases t with
    | nil => cases h
    | cons b rest =>
      obtain ⟨hc, hrest⟩ := dropFold?_cons_eq_some.mp h
      have hne : (Symbol.first b rest).char ≠ Symbol.replacement := by
        intro heq
        rw [heq, hp c List.mem_cons_self] at hc
        exact Bool.false_ne_true hc
      rw [List.cons_append]
      refine dropFold?_cons_eq_some.mpr ?_
      rw [Symbol.first_append_of_char_ne hne, List.drop_append_of_le_length (length_first_le b rest)]
      exact ⟨hc, ih (fun d hd => hp d (List.mem_cons_of_mem _ hd)) hrest⟩

/-- A text that begins with a character other than the replacement begins with a byte that begins a character. -/
theorem isContinuation_of_dropFold? {c : Char} {p : List Char} {b : UInt8} {rest u : Text}
    (hc : Unicode.foldEq c Symbol.replacement = false) (h : dropFold? (c :: p) (b :: rest) = some u) :
    Symbol.isContinuation b = false := by
  rw [← Bool.not_eq_true]
  intro hb
  obtain ⟨hfold, -⟩ := dropFold?_cons_eq_some.mp h
  rw [Symbol.char_first_of_continuation hb, hc] at hfold
  exact Bool.false_ne_true hfold

theorem fold_eq_of_foldEq {a b c : Char} (h : Unicode.foldEq a c = true) (h' : Unicode.foldEq b c = true) :
    Unicode.fold a = Unicode.fold b := by
  simp only [Unicode.foldEq, beq_iff_eq] at h h'
  rw [h, h']

/-- Two prefixes of one text are the same up to case, as far as the shorter one goes. -/
theorem dropFold?_agree {p q : List Char} {t u v : Text} (hp : dropFold? p t = some u) (hq : dropFold? q t = some v) :
    ∀ cd ∈ p.zip q, Unicode.fold cd.1 = Unicode.fold cd.2 := by
  induction p generalizing q t with
  | nil => simp
  | cons c p ih =>
    cases q with
    | nil => simp
    | cons d q =>
      cases t with
      | nil => cases hp
      | cons b rest =>
        obtain ⟨hc, hp⟩ := dropFold?_cons_eq_some.mp hp
        obtain ⟨hd, hq⟩ := dropFold?_cons_eq_some.mp hq
        intro cd hcd
        rw [List.zip_cons_cons, List.mem_cons] at hcd
        rcases hcd with rfl | hcd
        · exact fold_eq_of_foldEq hc hd
        · exact ih hp hq cd hcd

/-! ## Words -/

/-- The bytes that separate a directive from its arguments. -/
def blanks : List UInt8 := [9, 10, 12, 13, 32]

theorem mem_blanks {b : UInt8} : b ∈ blanks ↔ isBlank b = true := by
  simp [blanks, isBlank, or_assoc]

theorem ascii_of_mem_blanks : ∀ b ∈ blanks, b < 0x80 := by
  have hall : blanks.all (· < 0x80) = true := by decide
  simpa [List.all_eq_true] using hall

/-- Whether no character of a word is a blank up to case. -/
def IsUnbroken (p : List Char) : Prop := ∀ c ∈ p, ∀ b ∈ blanks, Unicode.foldEq c (Char.ofNat b.toNat) = false

-- by the two lists, and not by all characters and bytes
instance (p : List Char) : Decidable (IsUnbroken p) :=
  decidable_of_iff ((p.all fun c => blanks.all fun b => !Unicode.foldEq c (Char.ofNat b.toNat)) = true)
    (by simp only [IsUnbroken, List.all_eq_true, Bool.not_eq_true'])

/-- A text that is empty or begins with a blank begins with no other word. -/
theorem dropFold?_of_isDetached {c : Char} {p : List Char} (hp : IsUnbroken (c :: p)) {t : Text}
    (ht : isDetached t = true) : dropFold? (c :: p) t = none := by
  cases t with
  | nil => rfl
  | cons b rest =>
    have hb : b ∈ blanks := mem_blanks.mpr ht
    have hascii : b < 0x80 := ascii_of_mem_blanks b hb
    rw [dropFold?_ascii hascii, hp c List.mem_cons_self b hb]
    rfl

/-- Up to case a text begins with one word only, if words end where a blank does. -/
theorem dropFold?_detached {p q : List Char} (hp : IsUnbroken p) (hq : IsUnbroken q) {t u v : Text}
    (h : dropFold? p t = some u) (hu : isDetached u = true) (h' : dropFold? q t = some v) (hv : isDetached v = true) :
    p.map Unicode.fold = q.map Unicode.fold := by
  induction p generalizing q t with
  | nil =>
    obtain rfl := Option.some.inj h
    cases q with
    | nil => rfl
    | cons d q => exact nomatch (dropFold?_of_isDetached hq hu).symm.trans h'
  | cons c p ih =>
    cases q with
    | nil =>
      obtain rfl := Option.some.inj h'
      exact nomatch (dropFold?_of_isDetached hp hv).symm.trans h
    | cons d q =>
      cases t with
      | nil => cases h
      | cons b rest =>
        obtain ⟨hc, h⟩ := dropFold?_cons_eq_some.mp h
        obtain ⟨hd, h'⟩ := dropFold?_cons_eq_some.mp h'
        have ih := ih (fun e he => hp e (List.mem_cons_of_mem _ he)) (fun e he => hq e (List.mem_cons_of_mem _ he)) h h'
        rw [List.map_cons, List.map_cons, fold_eq_of_foldEq hc hd, ih]

/-! ## Tags -/

/-- The characters of an ASCII text are its bytes. -/
theorem chars_of_ascii {t : Text} (h : ∀ b ∈ t, b < 0x80) : chars t = t.map fun b => Char.ofNat b.toNat := by
  induction t with
  | nil => rfl
  | cons b rest ih =>
    rw [chars_cons, Symbol.first_of_ascii (h b List.mem_cons_self), List.map_cons]
    exact congrArg _ (ih fun a ha => h a (List.mem_cons_of_mem _ ha))

/-- The bytes of a word are ASCII, no blanks up to case, and have one lower case. -/
theorem of_mem_word {tag : Text} (h : isWord tag = true) {b : UInt8} (hb : b ∈ tag) :
    b < 0x80 ∧ (∀ a ∈ blanks, Unicode.foldEq (Char.ofNat b.toNat) (Char.ofNat a.toNat) = false) ∧
      Unicode.toLower (Char.ofNat b.toNat) = Unicode.fold (Char.ofNat b.toNat) := by
  have hbytes : ∀ n < 256, ((48 ≤ UInt8.ofNat n && UInt8.ofNat n ≤ 57) || (65 ≤ UInt8.ofNat n && UInt8.ofNat n ≤ 90) ||
      (97 ≤ UInt8.ofNat n && UInt8.ofNat n ≤ 122) || UInt8.ofNat n == byte '_') = true →
      UInt8.ofNat n < 0x80 ∧ IsUnbroken [Char.ofNat n] ∧ Unicode.toLower (Char.ofNat n) = Unicode.fold (Char.ofNat n) := by
    decide +kernel
  have hall := (Bool.and_eq_true_iff.mp h).2
  rw [List.all_eq_true] at hall
  have hword := hbytes b.toNat b.toNat_lt
  rw [UInt8.ofNat_toNat] at hword
  obtain ⟨hascii, hunbroken, hlower⟩ := hword (hall b hb)
  exact ⟨hascii, hunbroken _ List.mem_cons_self, hlower⟩

theorem isUnbroken_of_isWord {tag : Text} (h : isWord tag = true) : IsUnbroken (chars tag) := by
  rw [chars_of_ascii fun b hb => (of_mem_word h hb).1]
  intro c hc
  obtain ⟨b, hb, rfl⟩ := List.mem_map.mp hc
  exact (of_mem_word h hb).2.1

/-- Up to case, the tag of a region is not the name of a namespace. -/
theorem fold_chars_ne_of_isTag {tag : Text} (h : isTag tag = true) (k : Kind) :
    (chars tag).map Unicode.fold ≠ (chars k.text).map Unicode.fold := by
  simp only [isTag, Bool.and_eq_true, bne_iff_ne, ne_eq] at h
  obtain ⟨⟨hword, hchunk⟩, hstream⟩ := h
  have hlower : toLower tag = ofChars ((chars tag).map Unicode.fold) := by
    unfold toLower
    rw [chars_of_ascii fun b hb => (of_mem_word hword hb).1, List.map_map, List.map_map]
    exact congrArg ofChars (List.map_congr_left fun b hb => (of_mem_word hword hb).2.2)
  intro heq
  rw [heq] at hlower
  cases k with
  | chunk => exact hchunk (hlower.trans (by decide))
  | stream => exact hstream (hlower.trans (by decide))

end Text

/-! ## What a directive is made of -/

namespace Directive

theorem mem_table (d : Directive) : d ∈ table := by
  cases d with
  | beginGroup k | endGroup k | use k | display k | output k | pipe k => cases k <;> decide
  | _ => decide

theorem nodup_table : table.Nodup := by decide

/-- Directives with the same words are the same. -/
theorem words_injective {d d' : Directive} (h : d.words = d'.words) : d = d' := by
  have hall : ∀ d ∈ table, ∀ d' ∈ table, d.words = d'.words → d = d' := by decide
  exact hall d d.mem_table d' d'.mem_table h

/-- The first word of a directive. -/
def verb (d : Directive) : Text := d.words.headD []

/-- Different verbs are different in a letter that they both have. -/
theorem verb_eq {d d' : Directive}
    (h : ∀ cd ∈ (chars d.verb).zip (chars d'.verb), Unicode.fold cd.1 = Unicode.fold cd.2) : d.verb = d'.verb := by
  have hall : ∀ d ∈ table, ∀ d' ∈ table,
      (∀ cd ∈ (chars d.verb).zip (chars d'.verb), Unicode.fold cd.1 = Unicode.fold cd.2) → d.verb = d'.verb := by
    decide
  exact hall d d.mem_table d' d'.mem_table h

/-- No letter of a verb is the replacement character up to case, and there is a first one. -/
theorem verb_proper (d : Directive) :
    chars d.verb ≠ [] ∧ ∀ c ∈ chars d.verb, Unicode.foldEq c Symbol.replacement = false := by
  have hall : ∀ d ∈ table, chars d.verb ≠ [] ∧
      ((chars d.verb).all fun c => !Unicode.foldEq c Symbol.replacement) = true := by
    decide
  simpa only [List.all_eq_true, Bool.not_eq_true'] using hall d d.mem_table

theorem words_eq (d : Directive) : d.words = d.verb :: d.words.tail := by
  have hall : ∀ d ∈ table, d.words = d.verb :: d.words.tail := by decide
  exact hall d d.mem_table

theorem mem_words_of_tail {d : Directive} {w : Text} (h : d.words.tail = [w]) : w ∈ d.words :=
  List.mem_of_mem_tail (by rw [h]; exact List.mem_cons_self)

/-- The second word of a directive has no blanks. -/
theorem isUnbroken_of_tail {d : Directive} {w : Text} (h : d.words.tail = [w]) : IsUnbroken (chars w) := by
  have hall : ∀ d ∈ table, ∀ w ∈ d.words, IsUnbroken (chars w) := by decide
  exact hall d d.mem_table w (mem_words_of_tail h)

/-- Directives with the same verb and, up to case, the same second word are the same. -/
theorem eq_of_fold_eq {d d' : Directive} {w w' : Text} (hverb : d.verb = d'.verb) (hw : d.words.tail = [w])
    (hw' : d'.words.tail = [w']) (h : (chars w).map Unicode.fold = (chars w').map Unicode.fold) : d = d' := by
  have hall : ∀ d ∈ table, ∀ d' ∈ table, ∀ w ∈ d.words, ∀ w' ∈ d'.words,
      (chars w).map Unicode.fold = (chars w').map Unicode.fold → w = w' := by
    decide
  have heq : w = w' :=
    hall d d.mem_table d' d'.mem_table w (mem_words_of_tail hw) w' (mem_words_of_tail hw') h
  refine words_injective ?_
  rw [d.words_eq, d'.words_eq, hverb, hw, hw', heq]

/-- After the verb of a region, a second word of another directive is the name of a namespace. -/
theorem eq_kind_of_verb {d d' : Directive} {w : Text} (hd : d = .beginRegion ∨ d = .endRegion)
    (hverb : d.verb = d'.verb) (hw : d'.words.tail = [w]) : ∃ k : Kind, w = k.text := by
  have hall : ∀ d' ∈ table, d'.verb = beginRegion.verb ∨ d'.verb = endRegion.verb →
      ∀ w ∈ d'.words.tail, w = Kind.chunk.text ∨ w = Kind.stream.text := by
    decide
  have hverb : d'.verb = beginRegion.verb ∨ d'.verb = endRegion.verb := by
    rcases hd with rfl | rfl
    · exact Or.inl hverb.symm
    · exact Or.inr hverb.symm
  rcases hall d' d'.mem_table hverb w (by rw [hw]; exact List.mem_cons_self) with h | h
  · exact ⟨.chunk, h⟩
  · exact ⟨.stream, h⟩

end Directive

namespace Grammar

/-- What follows the verb of a directive other than print: arguments, the tag of a region, or a second word. -/
inductive Follows (g : Grammar) : Directive → Text → Prop
  | alone {u} : isDetached u = true → Follows g .includeFile u
  | tag {d b u rest tag} : d = .beginRegion ∨ d = .endRegion → tag ∈ g.tags → dropFold? (chars tag) u = some rest →
      isDetached rest = true → Follows g d (b :: u)
  | word {d b u rest w} : d.words.tail = [w] → isJoiner b = true → dropFold? (chars w) u = some rest →
      isDetached rest = true → Follows g d (b :: u)

variable {g : Grammar} {d d' : Directive} {l : LogicalLine}

/-- No blank joins words. -/
theorem isJoiner_eq_false {b : UInt8} (h : isBlank b = true) : isJoiner b = false := by
  have hb : b ∈ blanks := mem_blanks.mpr h
  simp only [blanks, List.mem_cons, List.not_mem_nil, or_false] at hb
  rcases hb with rfl | rfl | rfl | rfl | rfl <;> rfl

/-- After a verb, the tag of a region is not read as a second word of another directive. -/
theorem tag_ne_word {tag w : Text} (htag : isTag tag = true) (hd : d = .beginRegion ∨ d = .endRegion)
    (hverb : d.verb = d'.verb) (hw : d'.words.tail = [w]) {u rest rest' : Text}
    (h : dropFold? (chars tag) u = some rest) (hrest : isDetached rest = true)
    (h' : dropFold? (chars w) u = some rest') (hrest' : isDetached rest' = true) : False := by
  have htagged : IsUnbroken (chars tag) := by
    refine isUnbroken_of_isWord ?_
    simp only [isTag, Bool.and_eq_true] at htag
    exact htag.1.1
  have hworded : IsUnbroken (chars w) := Directive.isUnbroken_of_tail hw
  obtain ⟨k, rfl⟩ := Directive.eq_kind_of_verb hd hverb hw
  exact fold_chars_ne_of_isTag htag k (dropFold?_detached htagged hworded h hrest h' hrest')

/-- A verb and what follows it are those of one directive. -/
theorem Follows.unique (htags : ∀ tag ∈ g.tags, isTag tag = true) (hverb : d.verb = d'.verb) {u : Text}
    (h : g.Follows d u) (h' : g.Follows d' u) : d = d' := by
  cases h with
  | alone hu =>
    cases h' with
    | alone _ => rfl
    | tag hd' => rcases hd' with rfl | rfl <;> exact absurd hverb (by decide)
    | word _ hb => exact nomatch hb.symm.trans (isJoiner_eq_false hu)
  | tag hd htag hread hrest =>
    cases h' with
    | alone _ => rcases hd with rfl | rfl <;> exact absurd hverb (by decide)
    | tag hd' =>
      rcases hd with rfl | rfl <;> rcases hd' with rfl | rfl
      case inl.inl | inr.inr => rfl
      all_goals exact absurd hverb (by decide)
    | word hw _ hread' hrest' => exact (tag_ne_word (htags _ htag) hd hverb hw hread hrest hread' hrest').elim
  | word hw hb hread hrest =>
    cases h' with
    | alone hu => exact nomatch hb.symm.trans (isJoiner_eq_false hu)
    | tag hd' htag hread' hrest' =>
      exact (tag_ne_word (htags _ htag) hd' hverb.symm hw hread' hrest' hread hrest).elim
    | word hw' _ hread' hrest' =>
      have hunbroken := Directive.isUnbroken_of_tail hw
      have hunbroken' := Directive.isUnbroken_of_tail hw'
      exact Directive.eq_of_fold_eq hverb hw hw' (dropFold?_detached hunbroken hunbroken' hread hrest hread' hrest')

/-! ## Lines that are directives -/

theorem of_isRegion {verb body : Text} (h : g.isRegion verb body = true) :
    ∃ t b u tag rest, g.dropMarker? body = some t ∧ dropFold? (chars verb) t = some (b :: u) ∧ tag ∈ g.tags ∧
      dropFold? (chars tag) u = some rest ∧ isDetached rest = true := by
  unfold isRegion at h
  split at h
  · cases h
  · rename_i t hverb
    obtain ⟨t', ht', hverb⟩ := Option.bind_eq_some_iff.mp hverb
    cases t with
    | nil => cases h
    | cons b u =>
      dsimp only [dropByte?] at h
      split at h
      · cases h
      · rename_i v hv
        split at hv
        · obtain rfl := Option.some.inj hv
          obtain ⟨tag, htag, hread⟩ := List.any_eq_true.mp h
          cases hdrop : dropFold? (chars tag) u with
          | none =>
            rw [hdrop] at hread
            cases hread
          | some rest =>
            rw [hdrop] at hread
            exact ⟨t', b, u, tag, rest, ht', hverb, htag, hdrop, hread⟩
        · cases hv

theorem of_keyword? {words : List Text} {body : Text} (h : (g.keyword? words body).isSome = true) :
    ∃ t rest, g.dropMarker? body = some t ∧ dropWords? words t = some rest ∧ isDetached rest = true := by
  obtain ⟨args, hargs⟩ := Option.isSome_iff_exists.mp h
  obtain ⟨t, ht, hrest⟩ := Option.bind_eq_some_iff.mp hargs
  obtain ⟨rest, hwords, hdetached⟩ := Option.bind_eq_some_iff.mp hrest
  refine ⟨t, rest, ht, hwords, ?_⟩
  by_contra hne
  rw [if_neg hne] at hdetached
  cases hdetached

/-- Two words are read one after the other, with a joiner between them. -/
theorem of_dropWords? {v w t rest : Text} (h : dropWords? [v, w] t = some rest) :
    ∃ b u, dropFold? (chars v) t = some (b :: u) ∧ isJoiner b = true ∧ dropFold? (chars w) u = some rest := by
  obtain ⟨u, hv, hu⟩ := Option.bind_eq_some_iff.mp h
  obtain ⟨x, hx, hw⟩ := Option.bind_eq_some_iff.mp hu
  cases u with
  | nil => cases hx
  | cons b u =>
    dsimp only [dropByte?] at hx
    split at hx
    · rename_i hb
      obtain rfl := Option.some.inj hx
      exact ⟨b, u, hv, hb, hw⟩
    · cases hx

/-- The content of a line that is a directive other than print. -/
theorem follows_of_match? (hd : d ≠ .print) (h : (g.match? d l).isSome = true) :
    ∃ t u, g.dropMarker? l.body = some t ∧ dropFold? (chars d.verb) t = some u ∧ g.Follows d u := by
  -- a directive whose second word is its own
  have hwords : ∀ {v w : Text}, d.verb = v → d.words.tail = [w] → (g.keyword? [v, w] l.body).isSome = true →
      ∃ t u, g.dropMarker? l.body = some t ∧ dropFold? (chars d.verb) t = some u ∧ g.Follows d u := by
    intro v w hv hw hk
    obtain ⟨t, rest, ht, hread, hrest⟩ := of_keyword? hk
    obtain ⟨b, u, hverb, hb, hword⟩ := of_dropWords? hread
    exact ⟨t, b :: u, ht, by rw [hv]; exact hverb, .word hw hb hword hrest⟩
  cases d with
  | beginRegion =>
    have hbegin : g.isBegin l.body = true := by simpa [match?] using h
    obtain ⟨t, b, u, tag, rest, ht, hverb, htag, hread, hrest⟩ := of_isRegion hbegin
    exact ⟨t, b :: u, ht, hverb, .tag (Or.inl rfl) htag hread hrest⟩
  | endRegion =>
    have hend : g.isEnd l.body = true := by simpa [match?] using h
    obtain ⟨t, b, u, tag, rest, ht, hverb, htag, hread, hrest⟩ := of_isRegion hend
    exact ⟨t, b :: u, ht, hverb, .tag (Or.inr rfl) htag hread hrest⟩
  | includeFile =>
    obtain ⟨t, rest, ht, hread, hrest⟩ := of_keyword? h
    exact ⟨t, rest, ht, hread, .alone hrest⟩
  | print => exact absurd rfl hd
  | _ => exact hwords rfl rfl h

/-- Every line that is a directive begins with the marker and the verb. -/
theorem verb_of_match? (h : (g.match? d l).isSome = true) :
    ∃ t u, g.dropMarker? l.text = some t ∧ dropFold? (chars d.verb) t = some u := by
  by_cases hd : d = .print
  · subst hd
    obtain ⟨args, hargs⟩ := Option.isSome_iff_exists.mp h
    obtain ⟨t, ht, hrest⟩ := Option.bind_eq_some_iff.mp hargs
    obtain ⟨u, hu, -⟩ := Option.bind_eq_some_iff.mp hrest
    exact ⟨t, u, ht, hu⟩
  · obtain ⟨t, u, ht, hu, -⟩ := follows_of_match? hd h
    obtain ⟨hne, hproper⟩ := d.verb_proper
    -- the verb begins with a character that does not go on with one of the marker
    obtain ⟨c, p, hverb⟩ := List.exists_cons_of_ne_nil hne
    cases t with
    | nil =>
      rw [hverb] at hu
      cases hu
    | cons a t =>
      have ha : Symbol.isContinuation a = false := by
        rw [hverb] at hu hproper
        exact isContinuation_of_dropFold? (hproper c List.mem_cons_self) hu
      exact ⟨a :: t ++ l.terminator, u ++ l.terminator, dropFold?_append_of_head ht ha l.terminator,
        dropFold?_append_of_proper hproper hu l.terminator⟩

/-- A line is one directive at most. -/
theorem match?_unique (htags : ∀ tag ∈ g.tags, isTag tag = true) (h : (g.match? d l).isSome = true)
    (h' : (g.match? d' l).isSome = true) : d = d' := by
  have hverb : d.verb = d'.verb := by
    obtain ⟨t, u, ht, hu⟩ := verb_of_match? h
    obtain ⟨t', u', ht', hu'⟩ := verb_of_match? h'
    obtain rfl := Option.some.inj (ht.symm.trans ht')
    exact Directive.verb_eq (dropFold?_agree hu hu')
  have hprint : ∀ d : Directive, d.verb = Directive.print.verb → d = .print := by
    have hall : ∀ d ∈ Directive.table, d.verb = Directive.print.verb → d = .print := by decide
    exact fun d => hall d d.mem_table
  by_cases hd : d = .print
  · subst hd
    exact (hprint d' hverb.symm).symm
  · have hd' : d' ≠ .print := by
      rintro rfl
      exact hd (hprint d hverb)
    obtain ⟨t, u, ht, hu, hfollows⟩ := follows_of_match? hd h
    obtain ⟨t', u', ht', hu', hfollows'⟩ := follows_of_match? hd' h'
    obtain rfl := Option.some.inj (ht.symm.trans ht')
    rw [← hverb] at hu'
    obtain rfl := Option.some.inj (hu.symm.trans hu')
    exact hfollows.unique htags hverb hfollows'

/-- By a table, a line is the directive in it that it is, wherever that stands. -/
theorem classifyBy_eq_some_iff (htags : ∀ tag ∈ g.tags, isTag tag = true) {table : List Directive} {args : Text} :
    g.classifyBy table l = some (d, args) ↔ d ∈ table ∧ g.match? d l = some args := by
  constructor
  · intro h
    obtain ⟨e, he, hm⟩ := List.exists_of_findSome?_eq_some h
    obtain ⟨args', hargs, heq⟩ := Option.map_eq_some_iff.mp hm
    obtain ⟨rfl, rfl⟩ := Prod.mk.inj heq
    exact ⟨he, hargs⟩
  · rintro ⟨hd, hm⟩
    cases hc : g.classifyBy table l with
    | none =>
      have hnone := List.findSome?_eq_none_iff.mp hc d hd
      rw [hm] at hnone
      cases hnone
    | some found =>
      obtain ⟨e, args'⟩ := found
      obtain ⟨e', _, he⟩ := List.exists_of_findSome?_eq_some hc
      obtain ⟨args'', hargs, heq⟩ := Option.map_eq_some_iff.mp he
      obtain ⟨rfl, rfl⟩ := Prod.mk.inj heq
      obtain rfl := match?_unique htags (l := l) (by rw [hm]; rfl) (by rw [hargs]; rfl)
      rw [Option.some.inj (hm.symm.trans hargs)]

end Grammar

/-! ## Tables -/

/-- Settings that were checked have tags that were checked. -/
theorem Settings.isTag_of_make {marker : Text} {tags searchPath : List Text} {maxDepth : Int} {settings : Settings}
    (h : Settings.make marker tags searchPath maxDepth = .ok settings) :
    ∀ tag ∈ settings.grammar.tags, isTag tag = true := by
  have hdefault : ∀ tag ∈ defaultTags, isTag tag = true := by decide
  obtain ⟨-, htags, rfl⟩ := Settings.of_make h
  intro tag htag
  exact (List.mem_append.mp htag).elim (hdefault tag) (htags tag)

/-- **A line is one directive at most.** The marker and the tags were checked. Of the directives of the table, a line is
one at most; so in whatever order they stand, it is classified alike. It is classified as the beginning or the end of a
region if and only if it is taken for one outside of regions. -/
theorem classify_unambiguous {marker : Text} {tags searchPath : List Text} {maxDepth : Int} {settings : Settings}
    (hmake : Settings.make marker tags searchPath maxDepth = .ok settings) (l : LogicalLine) :
    let g := settings.grammar
    Directive.table.countP (fun d => (g.match? d l).isSome) ≤ 1 ∧
    ∀ table, table.Perm Directive.table →
      g.classifyBy table l = g.classify l ∧
      (g.classifyBy table l = some (.beginRegion, []) ↔ g.isBegin l.body = true) ∧
      (g.classifyBy table l = some (.endRegion, []) ↔ g.isEnd l.body = true) := by
  intro g
  have htags := Settings.isTag_of_make hmake
  refine ⟨?_, fun table hperm => ⟨?_, ?_, ?_⟩⟩
  · rw [List.countP_eq_length_filter]
    have hnodup := Directive.nodup_table.filter fun d => (g.match? d l).isSome
    have hunique : ∀ d ∈ Directive.table.filter fun d => (g.match? d l).isSome,
        ∀ d' ∈ Directive.table.filter fun d => (g.match? d l).isSome, d = d' := fun d hd d' hd' =>
      Grammar.match?_unique htags (List.mem_filter.mp hd).2 (List.mem_filter.mp hd').2
    generalize Directive.table.filter (fun d => (g.match? d l).isSome) = found at hnodup hunique
    rcases found with _ | ⟨d, _ | ⟨d', rest⟩⟩
    · exact Nat.zero_le 1
    · exact Nat.le_refl 1
    · have heq := hunique d List.mem_cons_self d' (List.mem_cons_of_mem _ List.mem_cons_self)
      exact absurd (heq ▸ List.mem_cons_self) (List.nodup_cons.mp hnodup).1
  · refine Option.ext fun found => ?_
    obtain ⟨d, args⟩ := found
    rw [Grammar.classify, Grammar.classifyBy_eq_some_iff htags, Grammar.classifyBy_eq_some_iff htags, hperm.mem_iff]
  · rw [Grammar.classifyBy_eq_some_iff htags, hperm.mem_iff, Grammar.match?]
    simp [g, Directive.mem_table]
  · rw [Grammar.classifyBy_eq_some_iff htags, hperm.mem_iff, Grammar.match?]
    simp [g, Directive.mem_table]

/-- Settings with a tag that begins like the name of a namespace. -/
def Settings.plural : Settings := { grammar := ⟨"@", defaultTags ++ [("chunks" : Text)]⟩ }

/-- The tag is told from the directive, with a long s as well, and by the table read backwards. -/
theorem classify_unambiguous_plural :
    Settings.make "@" ["chunks"] [] 1000 = .ok .plural ∧
    Settings.plural.grammar.isBegin "@Begin_chunkſ a" = true ∧
    Settings.plural.grammar.classifyBy Directive.table.reverse ⟨"@Begin_chunkſ a", "\n", ⟨"f", 1⟩⟩ =
      some (.beginRegion, []) ∧
    Settings.plural.grammar.classifyBy Directive.table.reverse ⟨"@Begin_chunk s a", "\n", ⟨"f", 1⟩⟩ =
      some (.beginGroup .chunk, ("s a" : Text)) := by
  have hmake : Settings.make "@" ["chunks"] [] 1000 = .ok .plural := by rfl
  have hbegin : Settings.plural.grammar.isBegin "@Begin_chunkſ a" = true := by decide
  have hperm : Directive.table.reverse.Perm Directive.table := List.reverse_perm _
  refine ⟨hmake, hbegin, ?_, ?_⟩
  · exact ((classify_unambiguous hmake ⟨"@Begin_chunkſ a", "\n", ⟨"f", 1⟩⟩).2 _ hperm).2.1.mpr hbegin
  · rw [((classify_unambiguous hmake ⟨"@Begin_chunk s a", "\n", ⟨"f", 1⟩⟩).2 _ hperm).1]
    decide

end Literate
