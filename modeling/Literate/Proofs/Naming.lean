import Literate.Proofs.Capture
import Mathlib.Data.List.DropRight

/-!
# Names in arguments

Most directives take their arguments apart at white space; a pipe takes its name to be what stands before the first
blank. A field of a text never holds white space (`hasSpace_of_mem_fields`), since the characters of a field are read as
the same characters when it stands alone (`symbols_ofSymbols_of_isInfix`). A name without white space that is followed by
a blank is the first field (`fields_append_blank`).

The main statement is `pipe_names_field`: a pipe asks for something if and only if there is a blank among its arguments,
and the name that it takes is the first field, and one that can be defined at all, if and only if it is without white
space.
-/

namespace Literate

open Text

/-! ## Characters of a part of a text -/

/-- The first character of a text is decided by its own bytes. -/
theorem Symbol.first_of_length_le {b : UInt8} {t rest : Text}
    (h : (first b (t ++ rest)).bytes.length ≤ t.length + 1) : first b t = first b (t ++ rest) := by
  unfold first at h ⊢
  by_cases hb : b < 0x80
  · simp only [if_pos hb]
  · simp only [if_neg hb] at h ⊢
    -- a sequence has four bytes at most, so the three bytes after the first decide
    match t with
    | [] =>
      match rest with
      | [] => rfl
      | [c] => simp only [List.nil_append] at h ⊢; grind
      | [c, d] => simp only [List.nil_append] at h ⊢; grind
      | c :: d :: e :: rest => simp only [List.nil_append] at h ⊢; grind
    | [c] =>
      match rest with
      | [] => rfl
      | [d] => simp only [List.cons_append, List.nil_append] at h ⊢; grind
      | d :: e :: rest => simp only [List.cons_append, List.nil_append] at h ⊢; grind
    | [c, d] =>
      match rest with
      | [] => rfl
      | e :: rest => simp only [List.cons_append, List.nil_append] at h ⊢; grind
    | c :: d :: e :: t => rfl

namespace Text

/-- What follows the first characters of a text is a text with the other characters. -/
theorem symbols_ofSymbols_of_suffix {t : Text} {before rs : List Symbol} (h : symbols t = before ++ rs) :
    symbols (ofSymbols rs) = rs := by
  induction before generalizing t with
  | nil =>
    rw [List.nil_append] at h
    rw [← h, ofSymbols_symbols]
  | cons r before ih =>
    cases t with
    | nil => exact nomatch h
    | cons b t =>
      rw [symbols_cons, List.cons_append] at h
      exact ih (List.cons.inj h).2

/-- The first characters of a text are those of the text that they make up. -/
theorem symbols_ofSymbols_of_append {t : Text} {rs after : List Symbol} (h : symbols t = rs ++ after) :
    symbols (ofSymbols rs) = rs := by
  induction rs generalizing t with
  | nil => rfl
  | cons r rs ih =>
    cases t with
    | nil => exact nomatch h
    | cons b t =>
      rw [symbols_cons, List.cons_append] at h
      obtain ⟨hr, hrest⟩ := List.cons.inj h
      obtain ⟨n, hn, hle⟩ := Symbol.bytes_first b t
      have hlen : (Symbol.first b t).bytes.length = n + 1 := by simp [hn, hle]
      rw [hlen, Nat.add_sub_cancel] at hrest
      have hsplit : t = (t.take n ++ ofSymbols rs) ++ ofSymbols after := by
        rw [List.append_assoc, ← show ofSymbols (rs ++ after) = ofSymbols rs ++ ofSymbols after from List.flatMap_append,
          ← hrest, ofSymbols_symbols, List.take_append_drop]
      -- the bytes of the first character are all there
      have hfirst : Symbol.first b (t.take n ++ ofSymbols rs) = Symbol.first b t := by
        have hshort : (Symbol.first b ((t.take n ++ ofSymbols rs) ++ ofSymbols after)).bytes.length ≤
            (t.take n ++ ofSymbols rs).length + 1 := by
          rw [← hsplit, hlen, List.length_append, List.length_take]
          omega
        rw [Symbol.first_of_length_le hshort, ← hsplit]
      have hbytes : ofSymbols (r :: rs) = b :: (t.take n ++ ofSymbols rs) := by
        rw [← hr]
        simp [ofSymbols, hn]
      have hdrop : (t.take n ++ ofSymbols rs).drop n = ofSymbols rs := by
        rw [List.drop_append_of_le_length (by simp [hle]), List.drop_take_self, List.nil_append]
      rw [hbytes, symbols_cons, hfirst, hlen, Nat.add_sub_cancel, hdrop, ih hrest, hr]

/-- Characters that stand together in a text are those of the text that they make up. -/
theorem symbols_ofSymbols_of_isInfix {t : Text} {rs : List Symbol} (h : rs <:+: symbols t) :
    symbols (ofSymbols rs) = rs := by
  obtain ⟨before, after, h⟩ := h
  have hsuffix : symbols (ofSymbols (rs ++ after)) = rs ++ after := by
    rw [List.append_assoc] at h
    exact symbols_ofSymbols_of_suffix h.symm
  exact symbols_ofSymbols_of_append hsuffix

/-- The characters of a text before an ASCII byte are not affected by it. -/
theorem symbols_append {a : UInt8} (ha : a < 0x80) (t rest : Text) :
    symbols (t ++ a :: rest) = symbols t ++ symbols (a :: rest) := by
  generalize hn : t.length = n
  induction n using Nat.strong_induction_on generalizing t with
  | _ n ih =>
    cases t with
    | nil => rfl
    | cons b t =>
      have hle := length_first_le b t
      rw [List.cons_append, symbols_cons, symbols_cons b t, Symbol.first_append (Symbol.isContinuation_of_ascii ha),
        List.drop_append_of_le_length hle, List.cons_append]
      have hshorter : (t.drop ((Symbol.first b t).bytes.length - 1)).length < n := by
        rw [List.length_drop, ← hn, List.length_cons]
        omega
      rw [ih _ hshorter _ rfl]

/-! ## Fields -/

/-- What is being read of a field is at the start of the characters, a field that is read stands among them, and neither
holds white space. -/
theorem foldr_pushField_infix (rs : List Symbol) :
    ((rs.foldr pushField ([], [])).1 <+: rs ∧ ∀ r ∈ (rs.foldr pushField ([], [])).1, isSpace r.char = false) ∧
      ∀ field ∈ (rs.foldr pushField ([], [])).2,
        ∃ g, g <:+: rs ∧ (∀ r ∈ g, isSpace r.char = false) ∧ field = ofSymbols g := by
  induction rs with
  | nil => simp
  | cons r rs ih =>
    rw [List.foldr_cons]
    generalize rs.foldr pushField ([], []) = p at ih
    obtain ⟨field, done⟩ := p
    obtain ⟨⟨hstart, hfield⟩, hdone⟩ := ih
    have hdone' : ∀ f ∈ done, ∃ g, g <:+: r :: rs ∧ (∀ r ∈ g, isSpace r.char = false) ∧ f = ofSymbols g := by
      intro f hf
      obtain ⟨g, hg, hspace, heq⟩ := hdone f hf
      exact ⟨g, hg.trans (List.suffix_cons r rs).isInfix, hspace, heq⟩
    by_cases hs : isSpace r.char = true
    · cases field with
      | nil =>
        rw [show pushField r ([], done) = ([], done) from if_pos hs]
        exact ⟨⟨List.nil_prefix, by simp⟩, hdone'⟩
      | cons s field =>
        rw [show pushField r (s :: field, done) = ([], ofSymbols (s :: field) :: done) from if_pos hs]
        refine ⟨⟨List.nil_prefix, by simp⟩, fun f hf => ?_⟩
        rcases List.mem_cons.mp hf with rfl | hf
        · exact ⟨s :: field, hstart.isInfix.trans (List.suffix_cons r rs).isInfix, hfield, rfl⟩
        · exact hdone' f hf
    · have hp : pushField r (field, done) = (r :: field, done) := by cases field <;> exact if_neg hs
      rw [hp]
      refine ⟨⟨List.cons_prefix_cons.mpr ⟨rfl, hstart⟩, fun s hs' => ?_⟩, hdone'⟩
      rcases List.mem_cons.mp hs' with rfl | hs'
      · exact Bool.eq_false_iff.mpr hs
      · exact hfield s hs'

/-- Characters that stand together in a text, none of them white space, make up a text without white space. -/
theorem hasSpace_ofSymbols {t : Text} {rs : List Symbol} (h : rs <:+: symbols t)
    (hs : ∀ r ∈ rs, isSpace r.char = false) : hasSpace (ofSymbols rs) = false := by
  unfold hasSpace chars
  rw [symbols_ofSymbols_of_isInfix h, List.any_eq_false]
  intro c hc
  obtain ⟨r, hr, rfl⟩ := List.mem_map.mp hc
  simp [hs r hr]

/-- **No field holds white space.** -/
theorem hasSpace_of_mem_fields {t field : Text} (h : field ∈ fields t) : hasSpace field = false := by
  obtain ⟨⟨hstart, hlast⟩, hdone⟩ := foldr_pushField_infix (symbols t)
  have hread {f : Text} (hf : f ∈ ((symbols t).foldr pushField ([], [])).2) : hasSpace f = false := by
    obtain ⟨g, hg, hspace, rfl⟩ := hdone f hf
    exact hasSpace_ofSymbols hg hspace
  unfold fields at h
  generalize (symbols t).foldr pushField ([], []) = p at h hstart hlast hread
  obtain ⟨_ | ⟨s, last⟩, done⟩ := p
  · exact hread h
  · rcases List.mem_cons.mp h with rfl | h
    · exact hasSpace_ofSymbols hstart.isInfix hlast
    · exact hread h

/-- White space ends the field that follows it. -/
theorem fst_pushField_of_isSpace {r : Symbol} (h : isSpace r.char = true) (p : List Symbol × List Text) :
    (pushField r p).1 = [] := by
  obtain ⟨_ | ⟨s, field⟩, done⟩ := p
  · rw [show pushField r ([], done) = ([], done) from if_pos h]
  · rw [show pushField r (s :: field, done) = ([], ofSymbols (s :: field) :: done) from if_pos h]

/-- A text without white space that is followed by a blank is a field. -/
theorem fields_append_blank {name : Text} (hne : name ≠ []) (hs : hasSpace name = false) {b : UInt8}
    (hb : isBlank b = true) (rest : Text) : fields (name ++ b :: rest) = name :: fields (b :: rest) := by
  obtain ⟨hascii, hspace⟩ := isSpace_of_isBlank hb
  have hrest : ((symbols (b :: rest)).foldr pushField ([], [])).1 = [] := by
    rw [symbols_cons, List.foldr_cons, Symbol.first_of_ascii hascii]
    exact fst_pushField_of_isSpace (r := ⟨Char.ofNat b.toNat, [b]⟩) hspace _
  unfold fields
  rw [symbols_append hascii, List.foldr_append]
  generalize (symbols (b :: rest)).foldr pushField ([], []) = p at hrest
  obtain ⟨field, done⟩ := p
  obtain rfl : field = [] := hrest
  rw [foldr_pushField fun _ => isSpace_of_mem_symbols hs]
  cases hsymbols : symbols name with
  | nil =>
    rw [← ofSymbols_symbols name, hsymbols] at hne
    exact absurd rfl hne
  | cons r rs =>
    show ofSymbols (r :: rs) :: done = name :: done
    rw [← hsymbols, ofSymbols_symbols]

/-! ## Arguments -/

theorem last_rdropWhile {α : Type} {p : α → Bool} {l : List α} {a : α} (h : (l.rdropWhile p).getLast? = some a) :
    ¬ p a = true := by
  have hne : l.rdropWhile p ≠ [] := by
    intro hnil
    rw [hnil] at h
    exact nomatch h
  have hlast := List.rdropWhile_last_not p l hne
  rw [List.getLast?_eq_some_getLast hne, Option.some.injEq] at h
  rwa [h] at hlast

/-- A text without blanks at its ends begins and ends with other bytes. -/
theorem isBlank_of_trimBlank {t : Text} {b : UInt8}
    (h : (trimBlank t).head? = some b ∨ (trimBlank t).getLast? = some b) :
    isBlank b = false := by
  have heq : trimBlank t = (t.dropWhile isBlank).rdropWhile isBlank := rfl
  rw [heq] at h
  rcases h with h | h
  · obtain ⟨rest, hrest⟩ : ∃ rest, (t.dropWhile isBlank).rdropWhile isBlank = b :: rest := List.head?_eq_some_iff.mp h
    obtain ⟨more, hmore⟩ := List.rdropWhile_prefix isBlank (t.dropWhile isBlank)
    rw [hrest, List.cons_append] at hmore
    have hne : t.dropWhile isBlank ≠ [] := by simp [← hmore]
    have hhead := List.head_dropWhile_not isBlank hne
    simpa [← hmore] using hhead
  · exact Bool.eq_false_of_not_eq_true (last_rdropWhile h)

/-- The name of a pipe is what stands before the first blank, and its command what follows the blanks. -/
theorem pipeArguments?_append {name rest : Text} (hne : name ≠ []) (hname : ∀ b ∈ name, isBlank b = false) {b : UInt8}
    (hb : isBlank b = true) (hrest : rest.dropWhile isBlank ≠ []) :
    pipeArguments? (name ++ b :: rest) = some (name, rest.dropWhile isBlank) := by
  have htake : (name ++ b :: rest).takeWhile (fun b => !isBlank b) = name := by
    rw [List.takeWhile_append_of_pos (by simpa using hname), List.takeWhile_cons_of_neg (by simp [hb]), List.append_nil]
  have hdrop : ((name ++ b :: rest).drop name.length).dropWhile isBlank = rest.dropWhile isBlank := by
    rw [List.drop_left, List.dropWhile_cons_of_pos hb]
  simp only [pipeArguments?, htake, hdrop, hne, hrest, or_self, if_false]

/-- Arguments with a blank among them are cut at the first one. -/
theorem exists_pipeArguments? {t : Text} (h : ∃ b ∈ trimBlank t, isBlank b = true) :
    ∃ name b rest, trimBlank t = name ++ b :: rest ∧ isBlank b = true ∧ name ≠ [] ∧
      pipeArguments? (trimBlank t) = some (name, rest.dropWhile isBlank) := by
  have hends {b : UInt8} := isBlank_of_trimBlank (t := t) (b := b)
  generalize trimBlank t = args at h hends
  obtain ⟨b, hfind⟩ : ∃ b, args.find? isBlank = some b := Option.isSome_iff_exists.mp (List.find?_isSome.mpr h)
  obtain ⟨hb, name, rest, rfl, hname⟩ := List.find?_eq_some_iff_append.mp hfind
  have hname : ∀ b ∈ name, isBlank b = false := by simpa using hname
  have hne : name ≠ [] := by
    rintro rfl
    exact Bool.false_ne_true ((hends (b := b) (.inl rfl)).symm.trans hb)
  have hrest : rest.dropWhile isBlank ≠ [] := by
    -- otherwise blanks would be the last bytes of the arguments
    intro hnil
    have hall : ∀ c ∈ b :: rest, isBlank c = true := by
      intro c hc
      rcases List.mem_cons.mp hc with rfl | hc
      · exact hb
      · exact List.dropWhile_eq_nil_iff.mp hnil c hc
    have hlast : (name ++ b :: rest).getLast? = some ((b :: rest).getLast (List.cons_ne_nil b rest)) := by
      rw [List.getLast?_append_of_ne_nil _ (List.cons_ne_nil b rest), List.getLast?_eq_some_getLast]
    have hblank := hall _ (List.getLast_mem (List.cons_ne_nil b rest))
    exact Bool.false_ne_true ((hends (.inr hlast)).symm.trans hblank)
  exact ⟨name, b, rest, rfl, hb, hne, pipeArguments?_append hne hname hb hrest⟩

/-- A name is cut off before a blank. -/
theorem mem_of_pipeArguments? {args name command : Text} (h : pipeArguments? args = some (name, command)) :
    ∃ b ∈ args, isBlank b = true := by
  by_contra hnone
  have hall : ∀ b ∈ args, (!isBlank b) = true := by
    intro b hb
    have hne : isBlank b ≠ true := fun hblank => hnone ⟨b, hb, hblank⟩
    simpa using hne
  have htake : args.takeWhile (fun b => !isBlank b) = args := List.takeWhile_eq_self_iff.mpr hall
  simp [pipeArguments?, htake] at h

end Text

/-! ## Names -/

/-- The names in an item. -/
def Item.names : Item → List Text
  | literal _ => []
  | use u => u.names
  | opened _ names => names
  | closed _ names => names
  | requested r => [r.ref.name]

/-- The names that a directive takes from its arguments. -/
def Directive.namesIn (d : Directive) (args : Text) (l : LogicalLine) : List Text := (d.items args l).flatMap Item.names

namespace Grammar

variable (g : Grammar)

/-- Some line that begins groups of a kind defines a name. -/
def Defines (k : Kind) (name : Text) : Prop :=
  ∃ l args, g.match? (.beginGroup k) l = some args ∧ name ∈ Directive.namesIn (.beginGroup k) args l

theorem namesIn_beginGroup (k : Kind) (args : Text) (l : LogicalLine) :
    Directive.namesIn (.beginGroup k) args l = fields args := List.append_nil _

/-- The line that begins a group, whatever the name is. -/
def beginGroupLine (k : Kind) (name : Text) : Text := g.marker ++ ("begin" ++ 95 :: (k.text ++ 32 :: name))

theorem match?_beginGroupLine (k : Kind) {name : Text} (h : hasSpace name = false) (terminator : Text)
    (position : Position) : g.match? (.beginGroup k) ⟨g.beginGroupLine k name, terminator, position⟩ = some name := by
  have hverb : dropFold? (chars "begin") ("begin" ++ 95 :: (k.text ++ 32 :: name)) =
      some (95 :: (k.text ++ 32 :: name)) := dropFold?_append (by decide) "begin" _
  have hkind : dropFold? (chars k.text) (k.text ++ 32 :: name) = some (32 :: name) :=
    dropFold?_append (by decide) k.text name
  have hwords : dropWords? (Directive.beginGroup k).words ("begin" ++ 95 :: (k.text ++ 32 :: name)) =
      some (32 :: name) := by
    show (dropFold? (chars "begin") _).bind _ = _
    rw [hverb, Option.bind_some]
    exact hkind
  show g.keyword? (Directive.beginGroup k).words (g.beginGroupLine k name) = some name
  rw [beginGroupLine, g.keyword?_marker (by rfl), hwords, Option.bind_some]
  show some (trimBlank (32 :: name)) = some name
  rw [trimBlank_of_not_hasSpace h]

/-- A name can be defined if it is without white space. -/
theorem defines_iff (k : Kind) {name : Text} (hne : name ≠ []) : g.Defines k name ↔ hasSpace name = false := by
  constructor
  · rintro ⟨l, args, -, hmem⟩
    rw [namesIn_beginGroup] at hmem
    exact hasSpace_of_mem_fields hmem
  · intro hs
    refine ⟨⟨g.beginGroupLine k name, [], ⟨[], 0⟩⟩, name, g.match?_beginGroupLine k hs _ _, ?_⟩
    rw [namesIn_beginGroup, fields_of_not_hasSpace hne hs]
    exact List.mem_singleton_self name

end Grammar

section Agreement

variable (k : Kind) (args : Text) (l : LogicalLine)

/-- What begins groups, ends or uses them, or displays one, takes the first field as its first name. -/
theorem head?_namesIn {d : Directive} (h : d ∈ [.beginGroup k, .endGroup k, .use k, .display k]) :
    (d.namesIn args l).head? = (fields args).head? := by
  simp only [List.mem_cons, List.not_mem_nil, or_false] at h
  unfold Directive.namesIn
  rcases h with rfl | rfl | rfl | rfl
  · exact congrArg List.head? (List.append_nil _)
  · exact congrArg List.head? (List.append_nil _)
  · cases hf : fields args <;> simp [Directive.items, Item.names, hf]
  · cases hf : fields args <;> simp [Directive.items, Item.names, requestOf, directiveRequest, hf]

/-- What writes a group to a file does, if there is a second field. -/
theorem head?_namesIn_output (h : 2 ≤ (fields args).length) :
    ((Directive.output k).namesIn args l).head? = (fields args).head? := by
  match hf : fields args, h with
  | name :: target :: rest, _ => simp [Directive.namesIn, Directive.items, Item.names, requestOf, directiveRequest, hf]

end Agreement

/-- The arguments of a directive with a keyword are without blanks at their ends. -/
theorem Grammar.exists_trimBlank {g : Grammar} {words : List Text} {body args : Text}
    (h : g.keyword? words body = some args) : ∃ rest, args = trimBlank rest := by
  obtain ⟨t, -, h⟩ := Option.bind_eq_some_iff.mp h
  obtain ⟨rest, -, h⟩ := Option.bind_eq_some_iff.mp h
  split at h
  · exact ⟨rest, (Option.some.inj h).symm⟩
  · exact nomatch h

/-- The name of a pipe is a field if it is without white space, and the first one then. -/
theorem head?_fields_iff {args : Text} (h : ∃ rest, args = trimBlank rest) {name command : Text}
    (hp : pipeArguments? args = some (name, command)) :
    name ≠ [] ∧ ((fields args).head? = some name ↔ hasSpace name = false) := by
  obtain ⟨rest, rfl⟩ := h
  obtain ⟨first, b, after, hsplit, hb, hne, hpipe⟩ := exists_pipeArguments? (mem_of_pipeArguments? hp)
  rw [hpipe, Option.some.injEq, Prod.mk.injEq] at hp
  obtain ⟨rfl, -⟩ := hp
  refine ⟨hne, fun hhead => hasSpace_of_mem_fields (List.mem_of_mem_head? hhead), fun hs => ?_⟩
  rw [hsplit, fields_append_blank hne hs hb, List.head?_cons]

/-- **The names that pipes take.** On the arguments of a pipe the directives that begin, end, use or display groups take
the first field as their first name, and so does the directive that writes to a file, if there is a second field. The
pipe makes a request if and only if there is a blank among the arguments. The name that it takes is the first field if
and only if it is without white space, and only then some line defines it. -/
theorem pipe_names_field {g : Grammar} {k : Kind} {l : LogicalLine} {args : Text}
    (h : g.match? (.pipe k) l = some args) :
    (∀ d ∈ [Directive.beginGroup k, .endGroup k, .use k, .display k], (d.namesIn args l).head? = (fields args).head?) ∧
    (2 ≤ (fields args).length → ((Directive.output k).namesIn args l).head? = (fields args).head?) ∧
    ((requestOf .pipe k args l).isSome ↔ ∃ b ∈ args, isBlank b = true) ∧
    ∀ q, requestOf .pipe k args l = some q →
      ((fields args).head? = some q.ref.name ↔ hasSpace q.ref.name = false) ∧
      (g.Defines k q.ref.name ↔ hasSpace q.ref.name = false) := by
  have htrim : ∃ rest, args = trimBlank rest := Grammar.exists_trimBlank h
  refine ⟨fun d => head?_namesIn k args l, head?_namesIn_output k args l, ?_, fun q hq => ?_⟩
  · rw [requestOf, Option.isSome_map]
    constructor
    · intro hsome
      obtain ⟨⟨name, command⟩, hp⟩ := Option.isSome_iff_exists.mp hsome
      exact mem_of_pipeArguments? hp
    · intro hblank
      obtain ⟨rest, rfl⟩ := htrim
      obtain ⟨name, b, after, -, -, -, hp⟩ := exists_pipeArguments? hblank
      rw [hp, Option.isSome_some]
  · obtain ⟨⟨name, command⟩, hp, rfl⟩ := Option.map_eq_some_iff.mp hq
    obtain ⟨hne, hhead⟩ := head?_fields_iff htrim hp
    exact ⟨hhead, g.defines_iff k hne⟩

/-- A pipe of a chunk, in one of the guises of the keyword. -/
theorem pipe_names_field_guised :
    let g : Grammar := ⟨"=", ["litweb"]⟩
    let l : LogicalLine := ⟨"=Pipe-Chunk manual  tr a-z A-Z", "\n", ⟨"f", 2⟩⟩
    let args : Text := "manual  tr a-z A-Z"
    g.match? (.pipe .chunk) l = some args ∧ (requestOf .pipe .chunk args l).isSome ∧
      (fields args).head? = some ("manual" : Text) ∧ g.Defines .chunk "manual" := by
  intro g l args
  have hmatch : g.match? (.pipe .chunk) l = some args := by decide
  obtain ⟨-, -, hsome, hname⟩ := pipe_names_field hmatch
  obtain ⟨hhead, hdefines⟩ := hname (directiveRequest .pipe .chunk "manual" "tr a-z A-Z" l) (by decide)
  exact ⟨hmatch, hsome.mpr ⟨32, by decide, rfl⟩, hhead.mpr (by decide), hdefines.mpr (by decide)⟩

/-- A space that is no blank: a pipe takes it for a part of its name, which no line defines, or finds no name before
it, although there are two fields. -/
theorem pipe_joins_fields :
    let g : Grammar := ⟨"=", ["litweb"]⟩
    let l : LogicalLine := ⟨"=pipe_chunk a\u00A0b cat", "\n", ⟨"f", 2⟩⟩
    let m : LogicalLine := ⟨"=pipe_chunk a\u00A0cat", "\n", ⟨"f", 3⟩⟩
    g.match? (.pipe .chunk) l = some ("a\u00A0b cat" : Text) ∧ (fields "a\u00A0b cat").head? = some ("a" : Text) ∧
      (requestOf .pipe .chunk "a\u00A0b cat" l).map (·.ref.name) = some ("a\u00A0b" : Text) ∧
      ¬ g.Defines .chunk "a\u00A0b" ∧
      g.match? (.pipe .chunk) m = some ("a\u00A0cat" : Text) ∧ (fields "a\u00A0cat").length = 2 ∧
      requestOf .pipe .chunk "a\u00A0cat" m = none := by
  intro g l m
  have hdefines : ¬ g.Defines .chunk "a\u00A0b" := by
    rw [g.defines_iff .chunk (by decide)]
    decide
  exact ⟨by decide, by decide, by decide, hdefines, by decide, by decide,
    by decide⟩

end Literate
