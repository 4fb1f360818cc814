import Literate.Proofs.Faults
import Literate.Proofs.PhysicalLines
import Literate.Proofs.Unambiguity
import Mathlib.Data.List.DropRight

/-!
# Line endings

A line may end in a line feed alone, or in a carriage return and a line feed. Which of them a text uses shows in the
stored lines and nowhere else: with a carriage return before every line feed of all texts (`Text.crlf`), all that is
read is the same up to the endings of the lines that are stored (`Web.read_crlf`).

Endings are dropped before lines are folded, and come back at the end of what a line stores (`fold_crlf`). The one
directive that looks at them is the one that prints: a blank has to follow its keyword, and the ending may be where it
stands. But one ending has a blank to give as well as another (`Grammar.printed?_twin`).
-/

namespace Literate

open Text Log

namespace Text

/-! ## Endings of texts -/

/-- All bytes of a text end lines. -/
def IsEnding (t : Text) : Prop := ∀ b ∈ t, isLineEnd b = true

/-- The end of a physical line: all but its content. -/
def ending (t : Text) : Text := t.drop (content t).length

theorem content_append_ending (t : Text) : content t ++ ending t = t :=
  List.prefix_iff_eq_append.mp (prefix_content t)

/-- What ends a text is no part of its content. -/
theorem content_append_of_isEnding {e : Text} (h : IsEnding e) (t : Text) : content (t ++ e) = content t := by
  unfold content trimEnd
  rw [List.reverse_append, List.dropWhile_append_of_pos fun b hb => h b (List.mem_reverse.mp hb)]

theorem content_of_isEnding {e : Text} (h : IsEnding e) : content e = [] := content_append_of_isEnding h []

theorem isEnding_ending (t : Text) : IsEnding (ending t) := by
  have hsplit : content t ++ ending t = content t ++ t.rtakeWhile isLineEnd :=
    (content_append_ending t).trans List.rdropWhile_append_rtakeWhile.symm
  intro b hb
  rw [List.append_cancel_left hsplit] at hb
  exact List.mem_rtakeWhile_imp hb

/-! ## Carriage returns before line feeds -/

/-- The text with a carriage return before every line feed. -/
def crlf (t : Text) : Text := t.flatMap fun b => if b = byte '\n' then [byte '\r', byte '\n'] else [b]

theorem crlf_append (t u : Text) : crlf (t ++ u) = crlf t ++ crlf u := List.flatMap_append

theorem crlf_lineFeed_cons (t : Text) : crlf (byte '\n' :: t) = byte '\r' :: byte '\n' :: crlf t := rfl

theorem crlf_cons {b : UInt8} (h : b ≠ byte '\n') (t : Text) : crlf (b :: t) = b :: crlf t := by
  show (if b = byte '\n' then _ else _) ++ crlf t = _
  rw [if_neg h]
  rfl

theorem crlf_eq_self {t : Text} (h : byte '\n' ∉ t) : crlf t = t := by
  induction t with
  | nil => rfl
  | cons b rest ih =>
    rw [List.mem_cons, not_or] at h
    rw [crlf_cons (Ne.symm h.1), ih h.2]

theorem crlf_eq_nil {t : Text} : crlf t = [] ↔ t = [] := by
  refine ⟨fun h => ?_, fun h => by rw [h]; rfl⟩
  cases t with
  | nil => rfl
  | cons b rest =>
    have hb := List.flatMap_eq_nil_iff.mp h b List.mem_cons_self
    split at hb <;> exact absurd hb (List.cons_ne_nil _ _)

theorem IsEnding.crlf {e : Text} (h : IsEnding e) : IsEnding (crlf e) := by
  intro b hb
  obtain ⟨a, ha, hba⟩ := List.mem_flatMap.mp hb
  split at hba
  · rcases List.mem_cons.mp hba with rfl | hba
    · rfl
    · rw [List.mem_singleton.mp hba]
      rfl
  · rw [List.mem_singleton.mp hba]
    exact h a ha

/-- Lines stay lines. -/
theorem physicalLines_crlf (t : Text) : physicalLines (crlf t) = (physicalLines t).map crlf := by
  induction t with
  | nil => rfl
  | cons b rest ih =>
    by_cases hb : b = byte '\n'
    · rw [hb, crlf_lineFeed_cons]
      show pushLine (byte '\r') (pushLine (byte '\n') (physicalLines (crlf rest))) =
        (pushLine (byte '\n') (physicalLines rest)).map crlf
      rw [ih]
      cases physicalLines rest <;> rfl
    · rw [crlf_cons hb]
      show pushLine b (physicalLines (crlf rest)) = (pushLine b (physicalLines rest)).map crlf
      rw [ih]
      cases physicalLines rest with
      | nil => simp only [pushLine, List.map_nil, List.map_cons, crlf_cons hb]; rfl
      | cons l ls => simp only [pushLine, List.map_cons, if_neg hb, crlf_cons hb]

section Line

variable {t : Text} (h : byte '\n' ∉ t.dropLast)
include h

/-- A line feed of a physical line is no part of its content. -/
theorem notMem_content : byte '\n' ∉ content t := by
  intro hm
  rcases List.eq_nil_or_concat t with rfl | ⟨u, b, rfl⟩
  · exact absurd hm List.not_mem_nil
  · rw [List.concat_eq_append, List.dropLast_concat] at h
    rw [List.concat_eq_append] at hm
    rcases List.mem_append.mp ((prefix_content _).mem hm) with hu | hb
    · exact h hu
    · obtain rfl := List.mem_singleton.mp hb
      have hend : IsEnding [byte '\n'] := fun b hb => List.mem_singleton.mp hb ▸ rfl
      rw [content_append_of_isEnding hend] at hm
      exact h ((prefix_content u).mem hm)

theorem crlf_eq : crlf t = content t ++ crlf (ending t) := by
  conv_lhs => rw [← content_append_ending t]
  rw [crlf_append, crlf_eq_self (notMem_content h)]

/-- The ending of a line has changed, and nothing else. -/
theorem content_crlf : content (crlf t) = content t := by
  rw [crlf_eq h, content_append_of_isEnding (isEnding_ending t).crlf]
  conv_rhs => rw [← content_append_ending t]
  rw [content_append_of_isEnding (isEnding_ending t)]

theorem ending_crlf : ending (crlf t) = crlf (ending t) := by
  have h' : content t ++ ending (crlf t) = content t ++ crlf (ending t) := by
    rw [← crlf_eq h, ← content_crlf h]
    exact content_append_ending _
  exact List.append_cancel_left h'

end Line

end Text

/-! ## Logical lines -/

/-- The line with a carriage return before the line feed of its ending. -/
def LogicalLine.crlf (l : LogicalLine) : LogicalLine := { l with terminator := l.terminator.crlf }

theorem LogicalLine.content_text_crlf {l : LogicalLine} (hl : l.terminator.IsEnding) :
    content l.crlf.text = content l.text :=
  (content_append_of_isEnding hl.crlf l.body).trans (content_append_of_isEnding hl l.body).symm

/-- A physical line is folded whatever its ending is. -/
theorem fold_crlf (pending : Option Fragment) (position : Position) {t : Text} (h : byte '\n' ∉ t.dropLast) :
    fold pending position t.crlf = (fold pending position t).map id LogicalLine.crlf := by
  have hcontent : trimEnd isLineEnd t.crlf = trimEnd isLineEnd t := content_crlf h
  have hending : t.crlf.drop (trimEnd isLineEnd t).length = Text.crlf (t.drop (trimEnd isLineEnd t).length) := by
    rw [← hcontent]
    exact (ending_crlf h).trans (congrArg (fun c : Text => Text.crlf (t.drop c.length)) hcontent.symm)
  unfold fold
  dsimp only
  rw [hcontent, hending]
  cases pending <;> dsimp only <;> split <;> rfl

/-- What a logical line ends in is the ending of a physical line. -/
theorem isEnding_terminator {pending : Option Fragment} {position : Position} {t : Text} {l : LogicalLine}
    (h : fold pending position t = .inr l) : l.terminator.IsEnding := by
  unfold fold at h
  cases pending <;> dsimp only at h <;> split at h
  case none.isTrue | some.isTrue => cases h
  all_goals
    obtain rfl := Sum.inr.inj h
    exact isEnding_ending t

/-! ## Directives -/

namespace Text

theorem lt_of_isLineEnd {b : UInt8} (h : isLineEnd b = true) : b < 0x80 := by
  unfold isLineEnd at h
  rcases Bool.or_eq_true_iff.mp h with h | h <;> rw [beq_iff_eq.mp h] <;> decide

theorem isBlank_of_isLineEnd {b : UInt8} (h : isLineEnd b = true) : isBlank b = true := by
  unfold isLineEnd at h
  rcases Bool.or_eq_true_iff.mp h with h | h <;> rw [beq_iff_eq.mp h] <;> rfl

/-- An ending is no part of the character before it. -/
theorem first_append_ending {e : Text} (he : IsEnding e) (b : UInt8) (t : Text) :
    Symbol.first b (t ++ e) = Symbol.first b t := by
  cases e with
  | nil => rw [List.append_nil]
  | cons a e =>
    have ha := lt_of_isLineEnd (he a List.mem_cons_self)
    exact Symbol.first_append (Symbol.isContinuation_of_ascii ha) b t e

/-- A text may be followed by an ending when characters and what comes after them are looked for in it, if this is not
found where characters are found in the ending. -/
theorem dropFold?_bind_append_ending {α : Type} {e : Text} (he : IsEnding e) {after : Text → Option α} {p : List Char}
    (h : ∀ q, q <:+ p → q ≠ [] → (dropFold? q e).bind after = none) (t : Text) :
    (dropFold? p (t ++ e)).bind after = (dropFold? p t).bind fun u => after (u ++ e) := by
  induction p generalizing t with
  | nil => cases t <;> rfl
  | cons c p ih =>
    cases t with
    | nil => exact h (c :: p) (List.suffix_refl _) (List.cons_ne_nil _ _)
    | cons b t =>
      rw [List.cons_append, dropFold?, dropFold?, first_append_ending he,
        List.drop_append_of_le_length (length_first_le b t)]
      split
      · exact ih (fun q hq => h q (hq.trans (List.suffix_cons c p))) _
      · rfl

/-- No character of a word is found at the beginning of an ending. -/
theorem dropFold?_ending {e : Text} (he : IsEnding e) {c : Char}
    (hc : Unicode.foldEq c '\n' = false ∧ Unicode.foldEq c '\r' = false) (p : List Char) :
    dropFold? (c :: p) e = none := by
  cases e with
  | nil => rfl
  | cons b e =>
    have hb := he b List.mem_cons_self
    rw [dropFold?_ascii (lt_of_isLineEnd hb)]
    refine if_neg ?_
    rw [Bool.not_eq_true]
    unfold isLineEnd at hb
    rcases Bool.or_eq_true_iff.mp hb with hb | hb <;> rw [beq_iff_eq.mp hb]
    · exact hc.1
    · exact hc.2

end Text

namespace Grammar

variable (g : Grammar)

/-- What is printed is looked for in a line as if it had no ending, but for the blank. -/
theorem printed?_append_ending (body : Text) {e : Text} (he : e.IsEnding) :
    g.printed? (body ++ e) =
      (g.dropMarker? body).bind fun t => (dropFold? (chars "print") t).bind fun u => dropByte? isBlank (u ++ e) := by
  have hword : ∀ c ∈ chars "print", Unicode.foldEq c '\n' = false ∧ Unicode.foldEq c '\r' = false := by
    have hall : ((chars "print").all fun c => !Unicode.foldEq c '\n' && !Unicode.foldEq c '\r') = true := by
      decide
    intro c hc
    simpa only [Bool.and_eq_true, Bool.not_eq_true'] using List.all_eq_true.mp hall c hc
  have hprint : ∀ t, (dropFold? (chars "print") (t ++ e)).bind (dropByte? isBlank) = _ :=
    dropFold?_bind_append_ending he (p := chars "print") fun q hq hne => by
      obtain ⟨c, q, rfl⟩ := List.exists_cons_of_ne_nil hne
      rw [dropFold?_ending he (hword c (hq.mem List.mem_cons_self))]
      rfl
  refine (dropFold?_bind_append_ending he (p := chars g.marker) (fun q _ _ => ?_) body).trans ?_
  · -- a marker that begins in the ending leaves an ending, in which there is no word
    cases hq : dropFold? q e with
    | none => rfl
    | some rest =>
      obtain ⟨x, rfl⟩ := suffix_of_dropFold? hq
      have hrest : rest.IsEnding := fun b hb => he b (List.mem_append_right x hb)
      have hp : chars "print" = 'p' :: ['r', 'i', 'n', 't'] := by decide
      rw [Option.bind_some, hp, dropFold?_ending hrest (hword 'p' (hp ▸ List.mem_cons_self))]
      rfl
  · exact congrArg _ (funext hprint)

/-- Two lines with the same body print the same, up to their endings. -/
theorem printed?_twin (body : Text) {e e' : Text} (he : e.IsEnding) (he' : e'.IsEnding) (hnil : e' = [] ↔ e = []) :
    (g.printed? (body ++ e')).map content = (g.printed? (body ++ e)).map content := by
  have hblank : ∀ u, (dropByte? isBlank (u ++ e')).map content = (dropByte? isBlank (u ++ e)).map content := by
    intro u
    cases u with
    | cons b u =>
      simp only [List.cons_append, dropByte?]
      split
      · exact congrArg some ((content_append_of_isEnding he' u).trans (content_append_of_isEnding he u).symm)
      · rfl
    | nil =>
      have hdrop : ∀ {e : Text}, e.IsEnding → (dropByte? isBlank e).map content = if e = [] then none else some [] := by
        intro e he
        cases e with
        | nil => rfl
        | cons b e =>
          rw [dropByte?, if_pos (isBlank_of_isLineEnd (he b List.mem_cons_self)), if_neg (List.cons_ne_nil _ _)]
          exact congrArg some (content_of_isEnding fun a ha => he a (List.mem_cons_of_mem _ ha))
      simp only [List.nil_append, hdrop he, hdrop he', hnil]
  rw [g.printed?_append_ending body he, g.printed?_append_ending body he']
  simp only [Option.map_bind, Function.comp_def, hblank]

end Grammar

/-- The arguments of a directive, without an ending that is printed. -/
def Directive.chomp (d : Directive) (args : Text) : Text := if d = .print then content args else args

/-- A line is the same directive whatever its ending is, with the same arguments up to what is printed. -/
theorem Grammar.classify_crlf (g : Grammar) {l : LogicalLine} (h : l.terminator.IsEnding) :
    (g.classify l.crlf).map (fun a => (a.1, a.1.chomp a.2)) =
      (g.classify l).map fun a => (a.1, a.1.chomp a.2) := by
  have hmatch : ∀ d : Directive, ((g.match? d l.crlf).map (d, ·)).map (fun a => (a.1, a.1.chomp a.2)) =
      ((g.match? d l).map (d, ·)).map fun a => (a.1, a.1.chomp a.2) := by
    intro d
    cases d with
    | print =>
      have htwin := g.printed?_twin l.body h h.crlf crlf_eq_nil
      have hpair := congrArg (Option.map (Directive.print, ·)) htwin
      simp only [Option.map_map] at hpair ⊢
      exact hpair
    | _ => rfl
  unfold classify classifyBy
  rw [List.map_findSome?, List.map_findSome?]
  exact congrArg (List.findSome? · _) (funext hmatch)

/-! ## Transcripts -/

/-- An item without the ending of what it stores. -/
def Item.chomp : Item → Item
  | literal text => .literal (content text)
  | i => i

/-- A stretch of reading without the endings of what it stores. -/
def Transcript.chomp (t : Transcript) : Transcript := { t with items := t.items.map Item.chomp }

theorem Transcript.chomp_andThen (t : Transcript) (next : Control → Transcript) :
    (t.andThen next).chomp = t.chomp.andThen fun c => (next c).chomp := by
  obtain ⟨c, items, _ | stop⟩ := t
  · simp only [andThen, chomp, List.map_append]
  · rfl

theorem Transcript.chomp_leave (t : Transcript) : t.leave.chomp = t.chomp.leave := rfl

/-- What a directive says does not depend on the ending of its line, but for what it prints. -/
theorem Directive.chomp_items (d : Directive) {args args' : Text} (l : LogicalLine) (h : d.chomp args' = d.chomp args) :
    (d.items args' l.crlf).map Item.chomp = (d.items args l).map Item.chomp := by
  cases d with
  | print => exact congrArg (fun t => [Item.literal t]) h
  | _ =>
    obtain rfl : args' = args := h
    rfl

/-- The source with a carriage return before every line feed. -/
def Source.crlf (source : Source) : Source := { source with text := source.text.crlf }

/-- The library with a carriage return before every line feed of its documents. -/
def Library.crlf (lib : Library) : Library := { lib with read := fun name => (lib.read name).map Source.crlf }

theorem Library.first?_crlf (lib : Library) (paths : List Text) (first : Option Text) :
    lib.crlf.first? paths first = (lib.first? paths first).map fun found => (found.1, found.2.crlf) := by
  induction paths generalizing first with
  | nil => rfl
  | cons p ps ih =>
    simp only [first?]
    rw [show lib.crlf.read p = (lib.read p).map Source.crlf from rfl]
    cases lib.read p with
    | ok source => rfl
    | error e => exact ih _

section Lines

variable (settings : Settings) (lib : Library) {read read' : Transcriber}
variable (h : ∀ path source c, (read' path source.crlf c).chomp = (read path source c).chomp)
include h

theorem transcribeInclude_crlf (target : Text) (l : LogicalLine) (c : Control) :
    (transcribeInclude settings lib.crlf read' target l.crlf c).chomp =
      (transcribeInclude settings lib read target l c).chomp := by
  unfold transcribeInclude
  rw [lib.first?_crlf, show l.crlf.position = l.position from rfl]
  cases lib.first? (candidates settings.searchPath target l.position.file) none with
  | error cause => rfl
  | ok found =>
    obtain ⟨path, source⟩ := found
    simp only [Except.map]
    split
    · rfl
    · exact congrArg (fun t : Transcript =>
        { t with control := { t.control with chain := t.control.chain.dropLast, inRegion := true } }) (h path source _)

theorem transcribeInside_crlf {l : LogicalLine} (hl : l.terminator.IsEnding) (c : Control) :
    (transcribeInside settings lib.crlf read' l.crlf c).chomp = (transcribeInside settings lib read l c).chomp := by
  have hclassify := settings.grammar.classify_crlf hl
  unfold transcribeInside
  cases hd : settings.grammar.classify l with
  | none =>
    rw [hd] at hclassify
    rw [Option.map_eq_none_iff.mp hclassify]
    exact congrArg (fun t => Transcript.mk c [.literal t] none) (LogicalLine.content_text_crlf hl)
  | some a =>
    obtain ⟨d, args⟩ := a
    rw [hd] at hclassify
    obtain ⟨⟨d', args'⟩, hd', heq⟩ := Option.map_eq_some_iff.mp hclassify
    obtain ⟨rfl, hargs⟩ := Prod.mk.inj heq
    rw [hd']
    have hitems := d'.chomp_items l hargs
    cases d' with
    | includeFile =>
      obtain rfl : args' = args := hargs
      dsimp only
      cases fields args' with
      | nil => rfl
      | cons target rest => exact transcribeInclude_crlf settings lib h target l c
    | beginRegion | endRegion | includeCode => rfl
    | _ => exact congrArg (fun items => Transcript.mk c items none) hitems

omit h in
theorem transcribeOutside_crlf {l : LogicalLine} (hl : l.terminator.IsEnding) (c : Control) :
    (transcribeOutside settings l.crlf c).chomp = (transcribeOutside settings l c).chomp := by
  unfold transcribeOutside
  rw [show l.crlf.body = l.body from rfl]
  split
  · rfl
  · split
    · rfl
    · split
      · exact congrArg (fun t => Transcript.mk c [.literal t] none) (LogicalLine.content_text_crlf hl)
      · rfl

theorem transcribePhysical_crlf (position : Position) {t : Text} (ht : byte '\n' ∉ t.dropLast) (c : Control) :
    (transcribePhysical settings lib.crlf read' position t.crlf c).chomp =
      (transcribePhysical settings lib read position t c).chomp := by
  unfold transcribePhysical
  rw [fold_crlf c.pending position ht]
  cases hf : fold c.pending position t with
  | inl fragment => rfl
  | inr l =>
    show (transcribeLine settings lib.crlf read' l.crlf { c with pending := none }).chomp =
      (transcribeLine settings lib read l { c with pending := none }).chomp
    have hl := isEnding_terminator hf
    unfold transcribeLine
    split
    · exact transcribeInside_crlf settings lib h hl _
    · exact transcribeOutside_crlf settings hl _

theorem transcribeLines_crlf (file : Text) (n : Nat) {texts : List Text} (ht : ∀ t ∈ texts, byte '\n' ∉ t.dropLast)
    (c : Control) : (transcribeLines settings lib.crlf read' file n (texts.map Text.crlf) c).chomp =
      (transcribeLines settings lib read file n texts c).chomp := by
  induction texts generalizing n c with
  | nil => rfl
  | cons t rest ih =>
    simp only [List.map_cons, transcribeLines]
    rw [Transcript.chomp_andThen, Transcript.chomp_andThen,
      transcribePhysical_crlf settings lib h ⟨file, n⟩ (ht t List.mem_cons_self)]
    exact congrArg _ (funext (ih (n + 1) fun u hu => ht u (List.mem_cons_of_mem _ hu)))

end Lines

section Calls

variable (settings : Settings) (lib : Library)

/-- What a document says does not depend on its line endings, and not on those of the files that it includes. -/
theorem transcribeSource_crlf (depth : Nat) (name : Text) (source : Source) (c : Control) :
    (transcribeSource settings lib.crlf depth name source.crlf c).chomp =
      (transcribeSource settings lib depth name source c).chomp := by
  induction depth generalizing name source c with
  | zero => rfl
  | succ depth ih =>
    simp only [transcribeSource]
    rw [Transcript.chomp_andThen, Transcript.chomp_andThen, show source.crlf.text = source.text.crlf from rfl,
      physicalLines_crlf, transcribeLines_crlf settings lib ih name 1 (areLines_physicalLines source.text).inside]
    rfl

theorem transcribeCall_crlf (live : Bool) (name : Text) (source : Source) (c : Control) :
    (transcribeCall settings lib.crlf live name source.crlf c).chomp =
      (transcribeCall settings lib live name source c).chomp := by
  cases live with
  | false =>
    have hcanceled : ∀ lib source, transcribeCall settings lib false name source c =
        ⟨{ c with chain := [] }, [], some .canceled⟩ := fun _ _ => rfl
    rw [hcanceled, hcanceled]
  | true =>
    have hsource := transcribeSource_crlf settings lib (lib.limit + 1) name source { c with chain := [Path.clean name] }
    have hlimit : lib.crlf.limit = lib.limit := rfl
    rw [transcribeCall_live, transcribeCall_live, Transcript.chomp_leave, Transcript.chomp_leave, hlimit, hsource]

end Calls

/-! ## Webs -/

/-- A web without the endings of its lines. -/
def Web.chomp (w : Web) : Web := { w with lines := w.lines.map content }

namespace Web

theorem chomp_enact (w : Web) (i : Item) : (i.enact w).chomp = i.chomp.enact w.chomp := by
  cases i with
  | literal text => simp only [Item.chomp, Item.enact, chomp, accept, push, Array.map_push, Array.size_map]
  | _ => rfl

theorem chomp_replay (w : Web) (items : List Item) :
    (w.replay items).chomp = w.chomp.replay (items.map Item.chomp) := by
  induction items generalizing w with
  | nil => rfl
  | cons i items ih =>
    rw [List.map_cons]
    show ((i.enact w).replay items).chomp = (i.chomp.enact w.chomp).replay (items.map Item.chomp)
    rw [ih, chomp_enact]

theorem chomp_apply (t : Transcript) (w : Web) : (t.apply w).chomp = t.chomp.apply w.chomp :=
  congrArg (Web.under · t.control) (w.chomp_replay t.items)

/-- Webs that are alike without the endings of their lines differ in these alone. -/
theorem eq_of_chomp {v w : Web} (h : v.chomp = w.chomp) :
    v = { w with lines := v.lines } ∧ v.lines.map content = w.lines.map content := by
  have hlines : v.chomp.lines = w.chomp.lines := congrArg Web.lines h
  have hrest := congrArg (fun u => { u with lines := v.lines }) h
  exact ⟨hrest, hlines⟩

end Web

/-! ## Calls -/

/-- The reading call with a carriage return before every line feed of all that it reads. -/
def Reading.crlf : Reading → Reading
  | parse lib live name source => .parse lib.crlf live name source.crlf
  | parseFile lib live name => .parseFile lib.crlf live name
  | request r => .request r

namespace Reading

variable (settings : Settings)

theorem transcribe_crlf (r : Reading) (c : Control) :
    (r.crlf.transcribe settings c).chomp = (r.transcribe settings c).chomp := by
  cases r with
  | parse lib live name source => exact transcribeCall_crlf settings lib live name source c
  | parseFile lib live name =>
    simp only [crlf, transcribe]
    rw [show lib.crlf.read name = (lib.read name).map Source.crlf from rfl]
    cases lib.read name with
    | error e => rfl
    | ok source => exact transcribeCall_crlf settings lib live name source c
  | request r => rfl

end Reading

namespace Web

variable (settings : Settings) {v w : Web}

section Alike

variable (h : v.chomp = w.chomp)
include h

theorem expanded_of_chomp : v.expanded = w.expanded := by
  have h : v.chomp.expanded = w.chomp.expanded := congrArg Web.expanded h
  exact h

theorem control_of_chomp : v.control = w.control := by
  have h : v.chomp.control = w.chomp.control := congrArg Web.control h
  exact h

/-- A reading call leaves webs behind that are alike if the webs are alike that it reads into. -/
theorem chomp_perform (r : Reading) : (r.crlf.perform settings v).chomp = (r.perform settings w).chomp := by
  cases hw : w.expanded with
  | true =>
    have hv := (expanded_of_chomp h).trans hw
    have hparse : ∀ lib lib' live name source source',
        (v.parse settings lib' live name source').1.web.chomp = (w.parse settings lib live name source).1.web.chomp := by
      intro lib lib' live name source source'
      rw [parse_web_of_expanded settings lib live name source hw,
        parse_web_of_expanded settings lib' live name source' hv, h]
    cases r with
    | parse lib live name source => exact hparse _ _ _ _ _ _
    | parseFile lib live name =>
      show (v.parseFile settings lib.crlf live name).1.web.chomp = (w.parseFile settings lib live name).1.web.chomp
      rw [parseFile_web, parseFile_web, show lib.crlf.read name = (lib.read name).map Source.crlf from rfl]
      cases lib.read name with
      | error e => exact h
      | ok source => exact hparse _ _ _ _ _ _
    | request q => exact congrArg (Web.request · q) h
  | false =>
    rw [Reading.perform_eq settings _ ((expanded_of_chomp h).trans hw), Reading.perform_eq settings _ hw, chomp_apply,
      chomp_apply, h, control_of_chomp h, Reading.transcribe_crlf]

theorem parse_stop_crlf (lib : Library) (live : Bool) (name : Text) (source : Source) :
    (v.parse settings lib.crlf live name source.crlf).2 = (w.parse settings lib live name source).2 := by
  cases hw : w.expanded with
  | true =>
    rw [parse_of_expanded settings _ live name _ hw,
      parse_of_expanded settings _ live name _ ((expanded_of_chomp h).trans hw)]
  | false =>
    have hv := (expanded_of_chomp h).trans hw
    rw [(parse_transcribes settings lib live name source hw).2,
      (parse_transcribes settings lib.crlf live name source.crlf hv).2, control_of_chomp h]
    have hcall := congrArg Transcript.stop (transcribeCall_crlf settings lib live name source w.control)
    exact hcall

/-- And it stops for the same reason, if it does. -/
theorem stop_crlf (r : Reading) : (Call.read r.crlf).stop? settings v = (Call.read r).stop? settings w := by
  cases r with
  | parse lib live name source => exact parse_stop_crlf settings h lib live name source
  | parseFile lib live name =>
    show (v.parseFile settings lib.crlf live name).2 = (w.parseFile settings lib live name).2
    rw [parseFile_stop, parseFile_stop, show lib.crlf.read name = (lib.read name).map Source.crlf from rfl]
    cases lib.read name with
    | error e => rfl
    | ok source => exact parse_stop_crlf settings h lib live name source
  | request q => rfl

end Alike

theorem chomp_read (h : v.chomp = w.chomp) (readings : List Reading) :
    (v.read settings (readings.map Reading.crlf)).chomp = (w.read settings readings).chomp := by
  induction readings generalizing v w with
  | nil => exact h
  | cons r readings ih => exact ih (chomp_perform settings h r)

/-- **Line endings change nothing but the endings of lines.** Calls that read texts with a carriage return before every
line feed leave the same web behind as those that read the texts themselves, but for the stored lines, which are as many
and the same without their endings. And whatever is read next is read to the same end, or stops for the same reason. -/
theorem read_crlf (readings : List Reading) (w : Web) :
    let plain := w.read settings readings
    let other := w.read settings (readings.map Reading.crlf)
    other = { plain with lines := other.lines } ∧ other.lines.size = plain.lines.size ∧
      other.lines.map (trimEnd isLineEnd) = plain.lines.map (trimEnd isLineEnd) ∧
      ∀ r : Reading, (Call.read r.crlf).stop? settings other = (Call.read r).stop? settings plain := by
  intro plain other
  have h : other.chomp = plain.chomp := chomp_read settings rfl readings
  obtain ⟨hweb, hlines⟩ := eq_of_chomp h
  have hsize := congrArg Array.size hlines
  rw [Array.size_map, Array.size_map] at hsize
  exact ⟨hweb, hsize, hlines, stop_crlf settings h⟩

end Web

end Literate
