import Literate.Proofs.Concatenation

/-!
# Lines that are directives

What begins with the marker and a keyword is that directive, whatever the marker is: reading the characters of the
marker ends where the keyword begins (`dropFold?_append`), even if the marker is no well-formed UTF-8. This module
follows three directives through the grammar: the one that includes a file without white space in its name
(`classify_includeLine`), and the two that end and begin a region (`classify_endLine`, `isBegin_beginLine`).
-/

namespace Literate

open Text

/-! ## Characters of a text -/

namespace Symbol

theorem isContinuation_of_ascii {a : UInt8} (h : a < 0x80) : isContinuation a = false := by
  unfold isContinuation
  rw [decide_eq_false (UInt8.not_le.mpr h), Bool.false_and]

theorem first_of_ascii {b : UInt8} (h : b < 0x80) (rest : Text) : first b rest = ⟨Char.ofNat b.toNat, [b]⟩ := by
  unfold first
  rw [if_pos h]

/-- No sequence goes on with a byte that continues none, so what begins with one can be left out. -/
theorem first_append {a : UInt8} (hc : isContinuation a = false) (b : UInt8) (t rest : Text) :
    first b (t ++ a :: rest) = first b t := by
  unfold first
  split
  · rfl
  · match t with
    | [] =>
      simp only [List.nil_append, isPair, isTriple, isQuadruple, hc, Bool.and_false, Bool.false_and, Bool.false_eq_true,
        if_false]
      cases rest with
      | nil => rfl
      | cons d rest => cases rest <;> rfl
    | [c] =>
      simp only [List.cons_append, List.nil_append, isTriple, isQuadruple, hc, Bool.and_false, Bool.false_and,
        Bool.false_eq_true, if_false]
      cases rest <;> rfl
    | [c, d] =>
      simp only [List.cons_append, List.nil_append, isQuadruple, hc, Bool.and_false, Bool.false_and,
        Bool.false_eq_true, if_false]
    | c :: d :: e :: t => rfl

/-- The bytes of a character after its first are no ASCII bytes. -/
theorem ascii_notMem_first {a : UInt8} (h : a < 0x80) (b : UInt8) (rest : Text) : a ∉ (first b rest).bytes.tail := by
  have hc := isContinuation_of_ascii h
  unfold first
  split
  · exact List.not_mem_nil
  · split
    · exact List.not_mem_nil
    · split
      · rename_i hp
        simp only [isPair, Bool.and_eq_true] at hp
        simp only [List.tail_cons, List.mem_singleton]
        rintro rfl
        exact Bool.false_ne_true (hc.symm.trans hp.2)
      · split
        · exact List.not_mem_nil
        · split
          · rename_i ht
            simp only [isTriple, Bool.and_eq_true] at ht
            simp only [List.tail_cons, List.mem_cons, List.not_mem_nil, or_false]
            rintro (rfl | rfl)
            · exact Bool.false_ne_true (hc.symm.trans ht.1.1.1.2)
            · exact Bool.false_ne_true (hc.symm.trans ht.1.1.2)
          · split
            · exact List.not_mem_nil
            · split
              · rename_i hq
                simp only [isQuadruple, Bool.and_eq_true] at hq
                simp only [List.tail_cons, List.mem_cons, List.not_mem_nil, or_false]
                rintro (rfl | rfl | rfl)
                · exact Bool.false_ne_true (hc.symm.trans hq.1.1.1.1.2)
                · exact Bool.false_ne_true (hc.symm.trans hq.1.1.1.2)
                · exact Bool.false_ne_true (hc.symm.trans hq.1.1.2)
              · exact List.not_mem_nil

end Symbol

namespace Text

theorem symbolsFrom_eq (skip : Nat) (read : List Symbol) (t : Text) :
    symbolsFrom skip read t = read.reverse ++ symbols (t.drop skip) := by
  induction t generalizing skip read with
  | nil =>
    rw [List.drop_nil]
    show symbolsFrom skip read [] = read.reverse ++ []
    cases skip <;> simp only [symbolsFrom, List.append_nil]
  | cons b rest ih =>
    cases skip with
    | zero =>
      rw [List.drop_zero, symbols, symbolsFrom, symbolsFrom, ih, ih _ [_]]
      simp only [List.reverse_cons, List.reverse_nil, List.nil_append, List.append_assoc]
    | succ skip => exact ih skip read

/-- The characters of a text are its first one, and those of what follows the bytes of that. -/
theorem symbols_cons (b : UInt8) (rest : Text) :
    symbols (b :: rest) = Symbol.first b rest :: symbols (rest.drop ((Symbol.first b rest).bytes.length - 1)) :=
  symbolsFrom_eq _ [Symbol.first b rest] rest

theorem chars_cons (b : UInt8) (rest : Text) :
    chars (b :: rest) =
      (Symbol.first b rest).char :: chars (rest.drop ((Symbol.first b rest).bytes.length - 1)) := by
  unfold chars
  rw [symbols_cons, List.map_cons]

/-- The bytes of a character are the first byte of a text and some of those that follow. -/
theorem length_first_le (b : UInt8) (rest : Text) : (Symbol.first b rest).bytes.length - 1 ≤ rest.length := by
  obtain ⟨n, hn, hle⟩ := Symbol.bytes_first b rest
  rw [hn, List.length_cons, List.length_take]
  omega

/-- An ASCII byte of a text is one of its characters. -/
theorem ascii_mem_chars {a : UInt8} (ha : a < 0x80) {t : Text} (h : a ∈ t) : Char.ofNat a.toNat ∈ chars t := by
  -- by induction on the length: what follows the first character is shorter
  generalize hn : t.length = n
  induction n using Nat.strong_induction_on generalizing t with
  | _ n ih =>
    cases t with
    | nil => exact absurd h List.not_mem_nil
    | cons b rest =>
      rw [chars_cons]
      rcases List.mem_cons.mp h with rfl | h
      · rw [Symbol.first_of_ascii ha]
        exact List.mem_cons_self
      · obtain ⟨k, hk, hle⟩ := Symbol.bytes_first b rest
        have hlen : (Symbol.first b rest).bytes.length - 1 = k := by
          rw [hk, List.length_cons, List.length_take]
          omega
        rw [hlen]
        refine List.mem_cons_of_mem _ (ih (rest.drop k).length ?_ ?_ rfl)
        · rw [List.length_drop, ← hn, List.length_cons]
          omega
        · rw [← List.take_append_drop k rest] at h
          refine (List.mem_append.mp h).resolve_left fun ht => Symbol.ascii_notMem_first ha b rest ?_
          rw [hk]
          exact ht

/-- A blank is white space. -/
theorem isSpace_of_isBlank {b : UInt8} (h : isBlank b = true) : b < 0x80 ∧ isSpace (Char.ofNat b.toNat) = true := by
  have hcases : (((b = 9 ∨ b = 10) ∨ b = 12) ∨ b = 13) ∨ b = 32 := by
    simpa only [isBlank, Bool.or_eq_true, beq_iff_eq] using h
  rcases hcases with (((rfl | rfl) | rfl) | rfl) | rfl <;> decide

/-- A text without white space has no blanks. -/
theorem isBlank_of_mem {t : Text} (h : hasSpace t = false) {b : UInt8} (hb : b ∈ t) : isBlank b = false := by
  by_contra hblank
  have hspace := isSpace_of_isBlank (Bool.eq_true_of_not_eq_false hblank)
  have hany : hasSpace t = true := List.any_eq_true.mpr ⟨_, ascii_mem_chars hspace.1 hb, hspace.2⟩
  exact Bool.false_ne_true (h.symm.trans hany)

/-! ## Prefixes up to case -/

theorem dropFold?_ascii {b : UInt8} (h : b < 0x80) (c : Char) (p : List Char) (rest : Text) :
    dropFold? (c :: p) (b :: rest) = if Unicode.foldEq c (Char.ofNat b.toNat) then dropFold? p rest else none := by
  rw [dropFold?, Symbol.first_of_ascii h]
  rfl

/-- A text begins with its own characters, if an ASCII byte follows it. -/
theorem dropFold?_append {a : UInt8} (ha : a < 0x80) (t rest : Text) :
    dropFold? (chars t) (t ++ a :: rest) = some (a :: rest) := by
  generalize hn : t.length = n
  induction n using Nat.strong_induction_on generalizing t with
  | _ n ih =>
    cases t with
    | nil => rfl
    | cons b t =>
      have hle := length_first_le b t
      have hself : Unicode.foldEq (Symbol.first b t).char (Symbol.first b t).char = true := beq_self_eq_true _
      rw [chars_cons, List.cons_append, dropFold?, Symbol.first_append (Symbol.isContinuation_of_ascii ha), hself,
        if_pos rfl, List.drop_append_of_le_length hle]
      refine ih _ ?_ _ rfl
      rw [List.length_drop, ← hn, List.length_cons]
      omega

/-! ## Fields -/

theorem foldr_pushField {rs : List Symbol} (h : ∀ r ∈ rs, isSpace r.char = false) (done : List Text) :
    rs.foldr pushField ([], done) = (rs, done) := by
  induction rs with
  | nil => rfl
  | cons r rs ih =>
    rw [List.foldr_cons, ih fun s hs => h s (List.mem_cons_of_mem _ hs)]
    have hr : ¬ isSpace r.char = true := by
      rw [h r List.mem_cons_self]
      exact Bool.false_ne_true
    cases rs with
    | nil => exact if_neg hr
    | cons s rs => exact if_neg hr

theorem isSpace_of_mem_symbols {t : Text} (h : hasSpace t = false) {r : Symbol} (hr : r ∈ symbols t) :
    isSpace r.char = false := by
  unfold hasSpace chars at h
  rw [List.any_eq_false] at h
  simpa using h r.char (List.mem_map_of_mem hr)

/-- A text without white space is its only field. -/
theorem fields_of_not_hasSpace {t : Text} (hne : t ≠ []) (h : hasSpace t = false) : fields t = [t] := by
  unfold fields
  rw [foldr_pushField fun _ => isSpace_of_mem_symbols h]
  cases hs : symbols t with
  | nil =>
    rw [← ofSymbols_symbols t, hs] at hne
    exact absurd rfl hne
  | cons r rs =>
    show [ofSymbols (r :: rs)] = [t]
    rw [← hs, ofSymbols_symbols]

theorem dropWhile_eq_self {p : UInt8 → Bool} {t : Text} (h : ∀ b ∈ t, p b = false) : t.dropWhile p = t := by
  cases t with
  | nil => rfl
  | cons b rest => rw [List.dropWhile_cons_of_neg (by rw [h b List.mem_cons_self]; exact Bool.false_ne_true)]

theorem trimBlank_of_not_hasSpace {t : Text} (h : hasSpace t = false) : trimBlank (32 :: t) = t := by
  have hb : ∀ b ∈ t, isBlank b = false := fun b => isBlank_of_mem h
  have hr : ∀ b ∈ t.reverse, isBlank b = false := fun b hm => hb b (List.mem_reverse.mp hm)
  unfold trimBlank trim trimEnd
  rw [List.dropWhile_cons_of_pos rfl, dropWhile_eq_self hb, dropWhile_eq_self hr, List.reverse_reverse]

end Text

/-! ## Directives -/

namespace Grammar

variable (g : Grammar)

/-- The line that includes a file. -/
def includeLine (f : Text) : Text := g.marker ++ "include " ++ f

/-- A line that ends a region. -/
def endLine : Text := g.marker ++ "end region"

/-- A line that begins a region. -/
def beginLine : Text := g.marker ++ "begin region"

/-- What follows the marker is found, if it begins with an ASCII byte. -/
theorem dropMarker?_append {a : UInt8} (ha : a < 0x80) (rest : Text) :
    g.dropMarker? (g.marker ++ a :: rest) = some (a :: rest) :=
  dropFold?_append ha g.marker rest

theorem classifyBy_cons_of_none {d : Directive} {l : LogicalLine} (h : g.match? d l = none) (table : List Directive) :
    g.classifyBy (d :: table) l = g.classifyBy table l := by
  rw [classifyBy, List.findSome?_cons, h]
  rfl

theorem classifyBy_cons_of_some {d : Directive} {l : LogicalLine} {args : Text} (h : g.match? d l = some args)
    (table : List Directive) : g.classifyBy (d :: table) l = some (d, args) := by
  rw [classifyBy, List.findSome?_cons, h]
  rfl

/-- What a line is classified as, it is. -/
theorem match?_of_classify {d : Directive} {l : LogicalLine} {args : Text} (h : g.classify l = some (d, args)) :
    g.match? d l = some args := by
  obtain ⟨d', _, hd⟩ := List.exists_of_findSome?_eq_some h
  obtain ⟨args', hm, heq⟩ := Option.map_eq_some_iff.mp hd
  obtain ⟨rfl, rfl⟩ := Prod.mk.inj heq
  exact hm

/-- A line with another letter after the marker than that of the verb delimits no region. -/
theorem isRegion_eq_false {a : UInt8} (ha : a < 0x80) (rest : Text) {verb : Text} {c : Char} {p : List Char}
    (hverb : chars verb = c :: p) (hne : Unicode.foldEq c (Char.ofNat a.toNat) = false) :
    g.isRegion verb (g.marker ++ a :: rest) = false := by
  unfold isRegion
  rw [g.dropMarker?_append ha, Option.bind_some, hverb, dropFold?_ascii ha, hne]
  rfl

/-- A line delimits a region if its verb is followed by a tag. -/
theorem isRegion_of_tag {a : UInt8} (ha : a < 0x80) {rest verb tag : Text} (b : UInt8) (more : Text)
    (hverb : dropFold? (chars verb) (a :: rest) = some (b :: more)) (hjoin : (isJoiner b || b == byte ' ') = true)
    (htag : tag ∈ g.tags) (hmore : dropFold? (chars tag) more = some []) :
    g.isRegion verb (g.marker ++ a :: rest) = true := by
  unfold isRegion
  rw [g.dropMarker?_append ha, Option.bind_some, hverb]
  simp only [dropByte?, hjoin, if_true]
  exact List.any_eq_true.mpr ⟨tag, htag, by rw [hmore]; rfl⟩

theorem includeLine_eq (f : Text) : g.includeLine f = g.marker ++ 105 :: ([110, 99, 108, 117, 100, 101] ++ 32 :: f) := by
  have h : (("include " : String) : Text) = [105, 110, 99, 108, 117, 100, 101, 32] := by decide
  simp only [includeLine, h, List.append_assoc, List.cons_append, List.nil_append]

theorem classify_includeLine {f : Text} (h : hasSpace f = false) (terminator : Text) (position : Position) :
    g.classify ⟨g.includeLine f, terminator, position⟩ = some (.includeFile, f) := by
  have hbegin : g.isBegin (g.includeLine f) = false := by
    rw [includeLine_eq]
    exact g.isRegion_eq_false (by decide) _ (c := 'b') (p := ['e', 'g', 'i', 'n']) (by decide)
      (by decide)
  have hend : g.isEnd (g.includeLine f) = false := by
    rw [includeLine_eq]
    exact g.isRegion_eq_false (by decide) _ (c := 'e') (p := ['n', 'd']) (by decide) (by decide)
  have hkeyword : g.keyword? Directive.includeFile.words (g.includeLine f) = some f := by
    have hword : (105 :: ([110, 99, 108, 117, 100, 101] ++ 32 :: f) : Text) = "include" ++ 32 :: f := by
      have h : (("include" : String) : Text) = [105, 110, 99, 108, 117, 100, 101] := by decide
      rw [h]
      rfl
    unfold keyword?
    rw [includeLine_eq, g.dropMarker?_append (by decide), Option.bind_some, hword]
    show (dropFold? (chars "include") ("include" ++ 32 :: f)).bind _ = _
    rw [dropFold?_append (by decide), Option.bind_some]
    show some (trimBlank (32 :: f)) = some f
    rw [trimBlank_of_not_hasSpace h]
  let l : LogicalLine := ⟨g.includeLine f, terminator, position⟩
  have hfirst : g.match? .beginRegion l = none := if_neg (by rw [hbegin]; exact Bool.false_ne_true)
  have hsecond : g.match? .endRegion l = none := if_neg (by rw [hend]; exact Bool.false_ne_true)
  have hthird : g.match? .includeFile l = some f := hkeyword
  unfold classify Directive.table
  rw [g.classifyBy_cons_of_none hfirst, g.classifyBy_cons_of_none hsecond, g.classifyBy_cons_of_some hthird]

theorem endLine_eq : g.endLine = g.marker ++ 101 :: [110, 100, 32, 114, 101, 103, 105, 111, 110] := by
  have h : (("end region" : String) : Text) = [101, 110, 100, 32, 114, 101, 103, 105, 111, 110] := by decide
  rw [endLine, h]

theorem classify_endLine (h : ("region" : Text) ∈ g.tags) (terminator : Text) (position : Position) :
    g.classify ⟨g.endLine, terminator, position⟩ = some (.endRegion, []) := by
  have hbegin : g.isBegin g.endLine = false := by
    rw [endLine_eq]
    exact g.isRegion_eq_false (by decide) _ (c := 'b') (p := ['e', 'g', 'i', 'n']) (by decide)
      (by decide)
  have hend : g.isEnd g.endLine = true := by
    rw [endLine_eq]
    exact g.isRegion_of_tag (by decide) 32 [114, 101, 103, 105, 111, 110] (by decide) rfl h (by decide)
  let l : LogicalLine := ⟨g.endLine, terminator, position⟩
  have hfirst : g.match? .beginRegion l = none := if_neg (by rw [hbegin]; exact Bool.false_ne_true)
  have hsecond : g.match? .endRegion l = some [] := if_pos hend
  unfold classify Directive.table
  rw [g.classifyBy_cons_of_none hfirst, g.classifyBy_cons_of_some hsecond]

theorem isBegin_beginLine (h : ("region" : Text) ∈ g.tags) : g.isBegin g.beginLine = true := by
  have heq : g.beginLine = g.marker ++ 98 :: [101, 103, 105, 110, 32, 114, 101, 103, 105, 111, 110] := by
    have h : (("begin region" : String) : Text) = [98, 101, 103, 105, 110, 32, 114, 101, 103, 105, 111, 110] := by
      decide
    rw [beginLine, h]
  rw [heq]
  exact g.isRegion_of_tag (by decide) 32 [114, 101, 103, 105, 111, 110] (by decide) rfl h (by decide)

end Grammar

/-! ## Physical lines -/

namespace Text

/-- A physical line with this content. -/
def asLine (t : Text) : Text := t ++ [byte '\n']

/-- A content that one physical line can hold without going on to the next: it has no line feed in it, and ends neither
in a line ending nor in a backslash. -/
structure IsContent (t : Text) : Prop where
  inside : byte '\n' ∉ t
  last : ∃ b, t.getLast? = some b ∧ isLineEnd b = false ∧ b ≠ byte '\\'

theorem isWhole_asLine (t : Text) : t.asLine.IsWhole := Or.inr List.getLast?_concat

theorem isWhole_append {t u : Text} (ht : t.IsWhole) (hu : u.IsWhole) : (t ++ u).IsWhole := by
  rcases hu with rfl | hu
  · rw [List.append_nil]
    exact ht
  · exact Or.inr (by rw [List.getLast?_append, hu]; rfl)

theorem physicalLines_asLine {t : Text} (h : byte '\n' ∉ t) : physicalLines t.asLine = [t.asLine] := by
  induction t with
  | nil => rfl
  | cons b rest ih =>
    obtain ⟨hb, hrest⟩ := not_or.mp (mt List.mem_cons.mpr h)
    show pushLine b (physicalLines (asLine rest)) = [asLine (b :: rest)]
    rw [ih hrest]
    simp only [pushLine, if_neg (Ne.symm hb), asLine, List.cons_append]

theorem fold_asLine {t : Text} (h : t.IsContent) (position : Position) :
    fold none position t.asLine = .inr ⟨t, [byte '\n'], position⟩ := by
  obtain ⟨b, hb, hend, hslash⟩ := h.last
  obtain ⟨u, rfl⟩ : ∃ u, t = u ++ [b] := ⟨t.dropLast, (List.dropLast_append_getLast? b hb).symm⟩
  have htrim : trimEnd isLineEnd (asLine (u ++ [b])) = u ++ [b] := by
    simp only [trimEnd, asLine, List.reverse_append, List.reverse_cons, List.reverse_nil, List.nil_append,
      List.cons_append]
    rw [List.dropWhile_cons_of_pos (by decide), List.dropWhile_cons_of_neg (by rw [hend]; exact Bool.false_ne_true)]
    simp only [List.reverse_cons, List.reverse_reverse]
  have hends : endsWith (u ++ [b]) "\\" = false := by
    have h : (("\\" : String) : Text) = [byte '\\'] := by decide
    rw [endsWith, h, List.reverse_append]
    simpa [List.isPrefixOf] using Ne.symm hslash
  unfold fold
  simp only [htrim, hends, Bool.false_eq_true, if_false]
  rw [asLine, List.drop_left]

end Text

namespace Grammar

variable {g : Grammar} (hg : hasSpace g.marker = false)
include hg

/-- The marker without white space may stand before any content. -/
theorem isContent_marker {t : Text} (h : t.IsContent) : (g.marker ++ t).IsContent where
  inside hm := by
    rcases List.mem_append.mp hm with hm | hm
    · exact absurd (isBlank_of_mem hg hm) (by decide)
    · exact h.inside hm
  last := by
    obtain ⟨b, hb, hends⟩ := h.last
    exact ⟨b, by rw [List.getLast?_append, hb]; rfl, hends⟩

theorem isContent_endLine : g.endLine.IsContent :=
  isContent_marker hg ⟨by decide, byte 'n', by decide, rfl, by decide⟩

theorem isContent_beginLine : g.beginLine.IsContent :=
  isContent_marker hg ⟨by decide, byte 'n', by decide, rfl, by decide⟩

theorem isContent_includeLine {f : Text} (hne : f ≠ []) (hf : hasSpace f = false)
    (hslash : f.getLast? ≠ some (byte '\\')) : (g.includeLine f).IsContent := by
  have hinclude : byte '\n' ∉ (("include " : String) : Text) := by decide
  obtain ⟨b, hb⟩ := Option.isSome_iff_exists.mp (List.getLast?_isSome.mpr hne)
  have hend : isLineEnd b = false := by
    have hblank := isBlank_of_mem hf (List.mem_of_getLast? hb)
    simp only [isBlank, isLineEnd, Bool.or_eq_false_iff] at hblank ⊢
    exact ⟨hblank.1.1.1.2, hblank.1.2⟩
  rw [includeLine, List.append_assoc]
  refine isContent_marker hg ⟨fun hm => ?_, b, by rw [List.getLast?_append, hb]; rfl, hend, ?_⟩
  · rcases List.mem_append.mp hm with hm | hm
    · exact hinclude hm
    · exact absurd (isBlank_of_mem hf hm) (by decide)
  · rintro rfl
    exact hslash hb

end Grammar

/-- Settings are made of what was checked, and of the default tags. -/
theorem Settings.of_make {marker : Text} {tags searchPath : List Text} {maxDepth : Int} {settings : Settings}
    (h : Settings.make marker tags searchPath maxDepth = .ok settings) :
    isMarker marker = true ∧ (∀ tag ∈ tags, isTag tag = true) ∧
      settings = { grammar := ⟨marker, defaultTags ++ tags⟩, searchPath, maxDepth } := by
  unfold make at h
  split at h
  · cases h
  · rename_i hmarker
    split at h
    · cases h
    · rename_i hfind
      split at h
      · cases h
      · refine ⟨by simpa using hmarker, fun tag htag => ?_, (Except.ok.inj h).symm⟩
        simpa using List.find?_eq_none.mp hfind tag htag

/-- Settings cannot be made, and are not refused either, if and only if marker and tags pass their checks but the marker
is not made of characters. -/
theorem Settings.make_eq_crashed_iff {marker : Text} {tags searchPath : List Text} {maxDepth : Int} :
    Settings.make marker tags searchPath maxDepth = .error .crashed ↔
      isMarker marker = true ∧ (∀ tag ∈ tags, isTag tag = true) ∧ isValid marker = false := by
  unfold make
  cases hmarker : isMarker marker with
  | false => simp
  | true =>
    cases hfind : tags.find? (!isTag ·) with
    | some tag => simpa using fun hall => absurd (hall tag (List.mem_of_find?_eq_some hfind)) (by
        simpa using List.find?_some hfind)
    | none =>
      have htags : ∀ tag ∈ tags, isTag tag = true := fun tag htag => by
        simpa using List.find?_eq_none.mp hfind tag htag
      cases isValid marker with
      | false => simpa using htags
      | true => simp

/-- Settings that were checked have a marker without white space, and regions can always be tagged as such. -/
theorem Settings.make_grammar {marker : Text} {tags searchPath : List Text} {maxDepth : Int} {settings : Settings}
    (h : Settings.make marker tags searchPath maxDepth = .ok settings) :
    hasSpace settings.grammar.marker = false ∧ ("region" : Text) ∈ settings.grammar.tags := by
  obtain ⟨hmarker, -, rfl⟩ := Settings.of_make h
  simp only [isMarker, Bool.and_eq_true, Bool.not_eq_true'] at hmarker
  exact ⟨hmarker.2, List.mem_append_left _ List.mem_cons_self⟩

end Literate
