import Literate.Proofs.PhysicalLines

/-!
# Lines outside of regions

Where no region is open and no code is included, a logical line that delimits no region does nothing
(`transcribeLines_inert`). The physical lines that it is made of are a *span* of the text; so that it may be left out,
it has to begin and end in the text (`Span.Inert`).

Spans that make up one logical line each are the same or apart from each other (`Span.Inert.apart`), since nothing waits
where one begins or ends, and something does in between. So whatever such spans are left out, the lines that are left are
read one by one as they are in the whole text, up to their numbers (`Midway.run`). The main statement is that
both texts are read alike (`parse_outside`).
-/

namespace Literate

open Text

/-! ## Folding a stretch of lines -/

section Folding

variable {file : Text} {pending : Option Fragment} {n : Nat}

/-- Lines are folded one stretch after the other. -/
theorem foldLines_append (file : Text) (pending : Option Fragment) (n : Nat) (texts more : List Text) :
    foldLines file pending n (texts ++ more) =
      ((foldLines file pending n texts).1 ++
          (foldLines file (foldLines file pending n texts).2 (n + texts.length) more).1,
        (foldLines file (foldLines file pending n texts).2 (n + texts.length) more).2) := by
  induction texts generalizing pending n with
  | nil => rfl
  | cons t rest ih =>
    have hlength : n + (t :: rest).length = n + 1 + rest.length := by
      rw [List.length_cons]
      omega
    rw [hlength, List.cons_append]
    simp only [foldLines]
    cases fold pending ⟨file, n⟩ t with
    | inl fragment => exact ih (some fragment) (n + 1)
    | inr l =>
      dsimp only
      rw [ih none (n + 1)]
      rfl

/-- Lines after which nothing waits complete a logical line. -/
theorem foldLines_ne_nil {texts : List Text} (hne : texts ≠ []) (h : (foldLines file pending n texts).2 = none) :
    (foldLines file pending n texts).1 ≠ [] := by
  obtain ⟨init, t, rfl⟩ := (List.eq_nil_or_concat texts).resolve_left hne
  rw [List.concat_eq_append, foldLines_snoc] at h ⊢
  cases hf : fold (foldLines file pending n init).2 ⟨file, n + init.length⟩ t with
  | inl fragment =>
    rw [hf] at h
    cases h
  | inr l => exact List.append_ne_nil_of_right_ne_nil _ (List.cons_ne_nil l [])

/-- A logical line is not complete before its last physical line, and none follows it. -/
theorem eq_nil_of_foldLines_singleton {texts more : List Text} {l : LogicalLine}
    (h : foldLines file pending n (texts ++ more) = ([l], none))
    (hnone : (foldLines file pending n texts).2 = none) : texts = [] ∨ more = [] := by
  by_contra hne
  obtain ⟨htexts, hmore⟩ := not_or.mp hne
  rw [foldLines_append, hnone] at h
  obtain ⟨hlines, hend⟩ := Prod.mk.inj h
  have hfirst := foldLines_ne_nil htexts hnone
  have hsecond := foldLines_ne_nil hmore hend
  have hlength := congrArg List.length hlines
  rw [List.length_append, List.length_singleton] at hlength
  have hfirst := List.length_pos_of_ne_nil hfirst
  have hsecond := List.length_pos_of_ne_nil hsecond
  omega

/-- What is folded of the first lines of a logical line is part of it. -/
theorem mem_of_foldLines_append {texts more : List Text} {l : LogicalLine}
    (h : foldLines file pending n (texts ++ more) = ([l], none)) :
    ∀ k ∈ (foldLines file pending n texts).1, k = l := by
  intro k hk
  rw [foldLines_append] at h
  have hmem : k ∈ [l] := by
    rw [← (Prod.mk.inj h).1]
    exact List.mem_append_left _ hk
  exact List.mem_singleton.mp hmem

end Folding

/-! ## Lines that do nothing -/

section Inert

variable {settings : Settings} (lib : Library) (read : Transcriber)

/-- Physical lines that make up lines that delimit no region do nothing where none is open and no code is included: only
what waits is another. -/
theorem transcribeLines_inert (file : Text) (n : Nat) (texts : List Text) {c : Control} (hregion : c.inRegion = false)
    (hcode : c.includeCode = false)
    (hl : ∀ l ∈ (foldLines file c.pending n texts).1, settings.grammar.delimiter? l = none) :
    transcribeLines settings lib read file n texts c =
      ⟨{ c with pending := (foldLines file c.pending n texts).2 }, [], none⟩ := by
  induction texts generalizing n c with
  | nil => rfl
  | cons t rest ih =>
    rw [transcribeLines, transcribePhysical]
    unfold foldLines at hl ⊢
    cases hf : fold c.pending ⟨file, n⟩ t with
    | inl fragment =>
      rw [hf] at hl
      rw [Transcript.andThen_of_none rfl]
      dsimp only
      rw [ih (n + 1) (c := { c with pending := some fragment }) hregion hcode hl]
      rfl
    | inr l =>
      rw [hf] at hl
      have hline := transcribeLine_outside lib read (c := { c with pending := none }) hregion (hl l List.mem_cons_self)
      rw [if_neg (by rw [hcode]; exact Bool.false_ne_true)] at hline
      dsimp only
      rw [hline, Transcript.andThen_of_none rfl]
      dsimp only
      rw [ih (n + 1) (c := { c with pending := none }) hregion hcode fun k hk => hl k (List.mem_cons_of_mem _ hk)]
      rfl

end Inert

/-! ## Spans of lines -/

/-- Physical lines of a text, one after another: how many stand before them, and how many they are. -/
structure Span where
  start : Nat
  length : Nat
deriving DecidableEq

namespace Span

/-- The lines before a span. -/
def before (s : Span) (texts : List Text) : List Text := texts.take s.start

/-- The lines of a span. -/
def lines (s : Span) (texts : List Text) : List Text := (texts.drop s.start).take s.length

/-- Whether a line with so many lines before it belongs to a span. -/
def covers (s : Span) (i : Nat) : Bool := s.start ≤ i && i < s.start + s.length

end Span

/-- The lines without those of the spans, where `i` lines stand before them. -/
def kept (spans : List Span) : (i : Nat) → List Text → List Text
  | _, [] => []
  | i, t :: rest => if spans.any (·.covers i) then kept spans (i + 1) rest else t :: kept spans (i + 1) rest

/-- The text without the lines of the spans. -/
def Text.without (spans : List Span) (t : Text) : Text := (kept spans 0 (physicalLines t)).flatten

theorem kept_sublist (spans : List Span) (i : Nat) (texts : List Text) : (kept spans i texts).Sublist texts := by
  induction texts generalizing i with
  | nil => exact .slnil
  | cons t rest ih =>
    unfold kept
    split
    · exact (ih (i + 1)).cons t
    · exact (ih (i + 1)).cons_cons t

/-- The lines of a text without spans are those that are kept. -/
theorem physicalLines_without (spans : List Span) (t : Text) :
    physicalLines (t.without spans) = kept spans 0 (physicalLines t) :=
  have hsublist := kept_sublist spans 0 (physicalLines t)
  physicalLines_flatten ((areLines_physicalLines t).sublist hsublist) fun _ hl => physicalLines_ne_nil (hsublist.mem hl)

/-- None of the lines of a span is kept. -/
theorem kept_append {spans : List Span} {s : Span} (hs : s ∈ spans) {texts : List Text} (hlength : texts.length = s.length)
    (more : List Text) : kept spans s.start (texts ++ more) = kept spans (s.start + s.length) more := by
  have hcovered : ∀ i, s.start ≤ i → i < s.start + s.length → spans.any (·.covers i) = true := by
    intro i hstart hend
    refine List.any_eq_true.mpr ⟨s, hs, ?_⟩
    simp [Span.covers, hstart, hend]
  have hskip : ∀ (texts : List Text) (i : Nat), s.start ≤ i → i + texts.length ≤ s.start + s.length →
      kept spans i (texts ++ more) = kept spans (i + texts.length) more := by
    intro texts
    induction texts with
    | nil => exact fun i _ _ => rfl
    | cons t rest ih =>
      intro i hstart hend
      rw [List.length_cons] at hend
      rw [List.cons_append, kept, if_pos (hcovered i hstart (by omega)), ih (i + 1) (by omega) (by omega),
        List.length_cons]
      congr 1
      omega
  rw [hskip texts s.start (Nat.le_refl _) (by omega), hlength]

/-! ## Spans that do nothing -/

/-- What is left behind by reading the first lines of a source into a web. -/
def Web.readLines (settings : Settings) (lib : Library) (name : Text) (texts : List Text) (w : Web) : Outcome :=
  scanLines settings lib (scanSource settings lib lib.limit) name 1 texts ⟨{ w with chain := [Path.clean name] }, #[]⟩

/-- A span of a text is a logical line that does nothing when the text is read into a web under a name: it begins and
ends in the text, it is read where no region is open and no code is included, and it delimits no region. -/
structure Span.Inert (settings : Settings) (lib : Library) (name text : Text) (w : Web) (s : Span) : Prop where
  ends : s.start + s.length ≤ (physicalLines text).length
  reached : (w.readLines settings lib name (s.before (physicalLines text))).2 = none
  begins : (w.readLines settings lib name (s.before (physicalLines text))).1.web.pending = none
  outside : (w.readLines settings lib name (s.before (physicalLines text))).1.web.inRegion = false
  unheeded : (w.readLines settings lib name (s.before (physicalLines text))).1.web.includeCode = false
  complete : ∃ l, foldLines name none (1 + s.start) (s.lines (physicalLines text)) = ([l], none) ∧
    settings.grammar.delimiter? l = none

/-- The transcript of the first lines of a source that is read by a call. -/
def transcribeFirst (settings : Settings) (lib : Library) (name : Text) (texts : List Text) (c : Control) : Transcript :=
  transcribeLines settings lib (transcribeSource settings lib lib.limit) name 1 texts
    { c with chain := [Path.clean name] }

section First

variable (settings : Settings) (lib : Library) (name : Text) (texts : List Text) (c : Control)

theorem transcribeFirst_append (more : List Text) :
    transcribeFirst settings lib name (texts ++ more) c =
      (transcribeFirst settings lib name texts c).andThen
        (transcribeLines settings lib (transcribeSource settings lib lib.limit) name (1 + texts.length) more) :=
  transcribeLines_append settings lib _ name 1 texts more _

theorem transcribeFirst_snoc (t : Text) :
    transcribeFirst settings lib name (texts ++ [t]) c =
      (transcribeFirst settings lib name texts c).andThen
        (transcribePhysical settings lib (transcribeSource settings lib lib.limit) ⟨name, (1 + texts.length : Nat)⟩ t) := by
  rw [transcribeFirst_append]
  congr 1
  funext d
  exact Transcript.andThen_done _

theorem transcribeFirst_chain : (transcribeFirst settings lib name texts c).control.chain = [Path.clean name] :=
  transcribeLines_chain settings lib (transcribeSource_keepsChain settings lib lib.limit) name 1 texts _

end First

namespace Span.Inert

variable {settings : Settings} {lib : Library} {name text : Text} {w : Web} {s s' : Span}

/-- The control under which an inert span is read. -/
theorem control (h : s.Inert settings lib name text w) :
    let t := transcribeFirst settings lib name (s.before (physicalLines text)) w.control
    t.stop = none ∧ t.control.pending = none ∧ t.control.inRegion = false ∧ t.control.includeCode = false := by
  have hread : Transcribes (transcribeFirst settings lib name (s.before (physicalLines text)) w.control)
      { w with chain := [Path.clean name] } (w.readLines settings lib name (s.before (physicalLines text))) :=
    lines_transcribes (source_transcribes settings lib lib.limit) name 1 _ ⟨{ w with chain := [Path.clean name] }, #[]⟩
  have hcontrol := hread.control
  exact ⟨hread.2.symm.trans h.reached, (congrArg Control.pending hcontrol).symm.trans h.begins,
    (congrArg Control.inRegion hcontrol).symm.trans h.outside,
    (congrArg Control.includeCode hcontrol).symm.trans h.unheeded⟩

theorem length_before (h : s.Inert settings lib name text w) : (s.before (physicalLines text)).length = s.start := by
  have hends := h.ends
  rw [Span.before, List.length_take]
  omega

theorem length_lines (h : s.Inert settings lib name text w) : (s.lines (physicalLines text)).length = s.length := by
  have hends := h.ends
  rw [Span.lines, List.length_take, List.length_drop]
  omega

theorem length_pos (h : s.Inert settings lib name text w) : 0 < s.length := by
  obtain ⟨l, hl, -⟩ := h.complete
  rw [← h.length_lines]
  refine List.length_pos_of_ne_nil fun hnil => ?_
  rw [hnil] at hl
  cases hl

/-- Spans that begin at the same line are the same: none goes on after its logical line is complete. -/
theorem length_le (h : s.Inert settings lib name text w) (h' : s'.Inert settings lib name text w)
    (hstart : s'.start = s.start) : s'.length ≤ s.length := by
  by_contra hlt
  obtain ⟨d, hd⟩ : ∃ d, s'.length = s.length + d := ⟨s'.length - s.length, by omega⟩
  obtain ⟨l, hl, -⟩ := h.complete
  obtain ⟨l', hl', -⟩ := h'.complete
  have hlength := h'.length_lines
  have hlines : s'.lines (physicalLines text) =
      s.lines (physicalLines text) ++ (((physicalLines text).drop s.start).drop s.length).take d := by
    rw [Span.lines, Span.lines, hstart, hd, List.take_add]
  rw [hlines, hstart] at hl'
  rw [hlines, List.length_append, h.length_lines] at hlength
  rcases eq_nil_of_foldLines_singleton hl' (congrArg Prod.snd hl) with hnil | hnil
  · have hpos := h.length_pos
    rw [← h.length_lines, hnil] at hpos
    exact absurd hpos (Nat.lt_irrefl 0)
  · rw [hnil, List.length_nil] at hlength
    omega

/-- Inside of a span something waits. -/
theorem waits (h : s.Inert settings lib name text w) {first rest : List Text}
    (hlines : s.lines (physicalLines text) = first ++ rest) (hfirst : first ≠ []) (hrest : rest ≠ []) :
    (transcribeFirst settings lib name (s.before (physicalLines text) ++ first) w.control).control.pending ≠ none := by
  intro hwaiting
  obtain ⟨hstop, hpending, hregion, hcode⟩ := h.control
  obtain ⟨l, hl, hdelimiter⟩ := h.complete
  rw [hlines] at hl
  rw [transcribeFirst_append, h.length_before, Transcript.andThen_of_none hstop] at hwaiting
  generalize transcribeFirst settings lib name (s.before (physicalLines text)) w.control = t
    at hpending hregion hcode hwaiting
  have hinert := transcribeLines_inert lib (transcribeSource settings lib lib.limit) name (1 + s.start) first hregion
    hcode (by
      rw [hpending]
      exact fun k hk => mem_of_foldLines_append hl k hk ▸ hdelimiter)
  rw [hinert, hpending] at hwaiting
  exact (eq_nil_of_foldLines_singleton hl hwaiting).elim hfirst hrest

/-- So no span begins inside of another one. -/
theorem le_start (h : s.Inert settings lib name text w) (h' : s'.Inert settings lib name text w)
    (hlt : s.start < s'.start) : s.start + s.length ≤ s'.start := by
  by_contra hinside
  obtain ⟨d, hd⟩ : ∃ d, s'.start = s.start + d := ⟨s'.start - s.start, by omega⟩
  obtain ⟨e, he⟩ : ∃ e, s.length = d + e := ⟨s.length - d, by omega⟩
  have hends := h.ends
  have hbefore : s'.before (physicalLines text) =
      s.before (physicalLines text) ++ ((physicalLines text).drop s.start).take d := by
    rw [Span.before, hd, List.take_add]
    rfl
  have hlines : s.lines (physicalLines text) = ((physicalLines text).drop s.start).take d ++
      (((physicalLines text).drop s.start).drop d).take e := by
    rw [Span.lines, he, List.take_add]
  refine h.waits hlines (List.ne_nil_of_length_pos ?_) (List.ne_nil_of_length_pos ?_) (hbefore ▸ h'.control.2.1)
  · rw [List.length_take, List.length_drop]
    omega
  · rw [List.length_take, List.length_drop, List.length_drop]
    omega

/-- Spans that make up one logical line each are the same or apart from each other. -/
theorem apart (h : s.Inert settings lib name text w) (h' : s'.Inert settings lib name text w) :
    s' = s ∨ s'.start + s'.length ≤ s.start ∨ s.start + s.length ≤ s'.start := by
  rcases Nat.lt_trichotomy s'.start s.start with hlt | heq | hlt
  · exact Or.inr (Or.inl (h'.le_start h hlt))
  · have hlength := Nat.le_antisymm (h.length_le h' heq) (h'.length_le h heq.symm)
    obtain ⟨start, length⟩ := s
    obtain ⟨start', length'⟩ := s'
    obtain rfl : start' = start := heq
    obtain rfl : length' = length := hlength
    exact Or.inl rfl
  · exact Or.inr (Or.inr (h.le_start h' hlt))

/-- After a span the control is the same as before. -/
theorem transcribed (h : s.Inert settings lib name text w) (n : Nat) (hn : n = 1 + s.start) :
    let c := (transcribeFirst settings lib name (s.before (physicalLines text)) w.control).control
    transcribeLines settings lib (transcribeSource settings lib lib.limit) name n (s.lines (physicalLines text)) c =
      ⟨c, [], none⟩ := by
  intro c
  subst hn
  obtain ⟨-, hpending, hregion, hcode⟩ := h.control
  obtain ⟨l, hl, hdelimiter⟩ := h.complete
  have hpending : c.pending = none := hpending
  have hinert := transcribeLines_inert lib (transcribeSource settings lib lib.limit) name (1 + s.start)
    (s.lines (physicalLines text)) (c := c) hregion hcode (by
      rw [hpending, hl]
      exact fun k hk => List.mem_singleton.mp hk ▸ hdelimiter)
  rw [hinert, hpending, hl, ← hpending]

end Span.Inert

/-! ## Texts without such spans -/

section Kept

variable {settings : Settings} {lib : Library} {name text : Text} {w : Web} {spans : List Span}

/-- In the middle of a text: `before` was read of it, and of the text without the spans what is kept of these lines,
after which the control is `c`. No span has lines on both sides. -/
structure Midway (settings : Settings) (lib : Library) (name text : Text) (w : Web) (spans : List Span)
    (before rest : List Text) (c : Control) : Prop where
  lines : physicalLines text = before ++ rest
  stop : (transcribeFirst settings lib name before w.control).stop = none
  apart : ∀ s ∈ spans, s.start + s.length ≤ before.length ∨ before.length ≤ s.start
  alike : (transcribeFirst settings lib name before w.control).control.Alike Position.unnumbered c
  chain : c.chain = [Path.clean name]

namespace Midway

variable {before rest : List Text} {c : Control}

theorem start : Midway settings lib name text w spans [] (physicalLines text)
    { w.control with chain := [Path.clean name] } where
  lines := rfl
  stop := rfl
  apart s _ := Or.inr (Nat.zero_le s.start)
  alike := .refl _ _
  chain := rfl

/-- Where an inert span begins, its lines are read in the whole text, and nothing changes. -/
theorem skip (h : Midway settings lib name text w spans before rest c)
    (hspans : ∀ s ∈ spans, s.Inert settings lib name text w) {s : Span} (hs : s ∈ spans)
    (hstart : s.start = before.length) :
    ∃ lines after, rest = lines ++ after ∧ lines.length = s.length ∧
      transcribeLines settings lib (transcribeSource settings lib lib.limit) name (1 + before.length) lines
          (transcribeFirst settings lib name before w.control).control =
        ⟨(transcribeFirst settings lib name before w.control).control, [], none⟩ ∧
      (transcribeFirst settings lib name (before ++ lines) w.control).control =
        (transcribeFirst settings lib name before w.control).control ∧
      Midway settings lib name text w spans (before ++ lines) after c := by
  have hinert := hspans s hs
  have hdrop : (physicalLines text).drop s.start = rest := by
    conv_lhs => rw [h.lines, hstart, List.drop_left]
  obtain rfl : s.before (physicalLines text) = before := by rw [Span.before, h.lines, hstart, List.take_left]
  have hskip := hinert.transcribed (1 + (s.before (physicalLines text)).length) (by rw [hstart])
  have hfirst := transcribeFirst_append settings lib name (s.before (physicalLines text)) w.control
    (s.lines (physicalLines text))
  rw [Transcript.andThen_of_none h.stop, hskip] at hfirst
  refine ⟨s.lines (physicalLines text), rest.drop s.length, ?_, hinert.length_lines, hskip, by rw [hfirst], ?_⟩
  · rw [Span.lines, hdrop, List.take_append_drop]
  · refine ⟨?_, by rw [hfirst], fun s' hs' => ?_, by rw [hfirst]; exact h.alike, h.chain⟩
    · rw [Span.lines, hdrop, List.append_assoc, List.take_append_drop]
      exact h.lines
    · rw [List.length_append, hinert.length_lines, ← hstart]
      rcases hinert.apart (hspans s' hs') with rfl | hle | hle
      · exact Or.inl (Nat.le_refl _)
      · exact Or.inl (Nat.le_add_right_of_le hle)
      · exact Or.inr hle

/-- Where no span begins, a line is kept, and read alike. -/
theorem keep {t : Text} (h : Midway settings lib name text w spans before (t :: rest) c)
    (hbegins : ∀ s ∈ spans, s.start ≠ before.length) (m : Nat) :
    let read := transcribeSource settings lib lib.limit
    let n := 1 + before.length
    let u := transcribePhysical settings lib read ⟨name, n⟩ t
      (transcribeFirst settings lib name before w.control).control
    let u' := transcribePhysical settings lib read ⟨name, m⟩ t c
    spans.any (·.covers before.length) = false ∧ u.Alike Position.unnumbered u' ∧
      (u.stop = none → (transcribeFirst settings lib name (before ++ [t]) w.control).control = u.control ∧
        Midway settings lib name text w spans (before ++ [t]) rest u'.control) := by
  intro read n u u'
  have hchain := (transcribeFirst_chain settings lib name before w.control).trans h.chain.symm
  have halike : u.Alike Position.unnumbered u' :=
    transcribePhysical_unnumbered settings lib (transcribeSource_unnumbered settings lib lib.limit) name n m t h.alike
      hchain
  refine ⟨?_, halike, fun hstop => ?_⟩
  · refine List.any_eq_false.mpr fun s hs hcovers => ?_
    have hne := hbegins s hs
    simp only [Span.covers, Bool.and_eq_true, decide_eq_true_eq] at hcovers
    rcases h.apart s hs with hle | hle <;> omega
  · have hsnoc := transcribeFirst_snoc settings lib name before w.control t
    rw [Transcript.andThen_of_none h.stop] at hsnoc
    refine ⟨by rw [hsnoc], ?_, by rw [hsnoc]; exact hstop, fun s hs => ?_, by rw [hsnoc]; exact halike.control, ?_⟩
    · rw [h.lines, List.append_assoc]
      rfl
    · have hne := hbegins s hs
      rw [List.length_append, List.length_singleton]
      rcases h.apart s hs with hle | hle <;> omega
    · exact (transcribePhysical_chain settings lib (transcribeSource_keepsChain settings lib lib.limit) _ _ _).trans
        h.chain

/-- From the middle of a text on, the lines that are kept are read as they are in the whole text. The induction is on
the lines that are still to be read. -/
theorem run (h : Midway settings lib name text w spans before rest c)
    (hspans : ∀ s ∈ spans, s.Inert settings lib name text w) (m : Nat) :
    (transcribeLines settings lib (transcribeSource settings lib lib.limit) name (1 + before.length) rest
        (transcribeFirst settings lib name before w.control).control).Alike Position.unnumbered
      (transcribeLines settings lib (transcribeSource settings lib lib.limit) name m
        (kept spans before.length rest) c) := by
  generalize hn : rest.length = n
  induction n using Nat.strong_induction_on generalizing before rest c m with
  | _ n ih =>
    by_cases hbegins : ∃ s ∈ spans, s.start = before.length
    · obtain ⟨s, hs, hstart⟩ := hbegins
      obtain ⟨lines, after, rfl, hlength, hskip, hcontrol, hnext⟩ := h.skip hspans hs hstart
      have hpos := (hspans s hs).length_pos
      have hrun := ih after.length (by rw [List.length_append] at hn; omega) hnext m rfl
      rw [transcribeLines_append, hskip, ← hstart, kept_append hs hlength, hstart, ← hlength]
      rw [hcontrol, List.length_append, ← Nat.add_assoc] at hrun
      exact hrun
    · cases rest with
      | nil => exact ⟨h.alike, rfl, rfl⟩
      | cons t rest =>
        obtain ⟨hkept, halike, hnext⟩ := h.keep (fun s hs heq => hbegins ⟨s, hs, heq⟩) m
        rw [kept, hkept]
        refine halike.andThen fun hstop => ?_
        obtain ⟨hcontrol, hnext⟩ := hnext hstop
        have hrun := ih rest.length (by rw [← hn, List.length_cons]; omega) hnext (m + 1) rfl
        rw [hcontrol, List.length_append, List.length_singleton] at hrun
        exact hrun

end Midway

end Kept

/-- **Text outside of regions is inert.** Logical lines of a source are left out that begin and end in it, that are read
where no region is open and no code is included, and that delimit no region. Then the source is read like the whole one:
the call stops for a reason of the same kind, or goes through, and leaves the same web, up to the numbers of lines. -/
theorem parse_outside (settings : Settings) (lib : Library) (live : Bool) (name : Text) (source : Source) {w : Web}
    {spans : List Span} (hspans : ∀ s ∈ spans, s.Inert settings lib name source.text w) :
    let whole := w.parse settings lib live name source
    let rest := w.parse settings lib live name { source with text := source.text.without spans }
    rest.2.map Stop.kind = whole.2.map Stop.kind ∧
      rest.1.web.relocate Position.unnumbered = whole.1.web.relocate Position.unnumbered := by
  intro whole rest
  have hsame : rest = whole → rest.2.map Stop.kind = whole.2.map Stop.kind ∧
      rest.1.web.relocate Position.unnumbered = whole.1.web.relocate Position.unnumbered :=
    fun heq => ⟨by rw [heq], by rw [heq]⟩
  cases hx : w.expanded with
  | true => exact hsame (by simp only [rest, whole, Web.parse, hx, if_true])
  | false =>
    cases live with
    | false => exact hsame (by simp only [rest, whole, Web.parse, hx, if_false, Bool.false_eq_true])
    | true =>
      have hwhole : Transcribes _ w whole := parse_transcribes settings lib true name source hx
      have hrest : Transcribes _ w rest :=
        parse_transcribes settings lib true name { source with text := source.text.without spans } hx
      rw [transcribeCall_live, transcribeSource_succ] at hwhole hrest
      have hlines := Midway.start.run hspans 1
      rw [List.length_nil, ← physicalLines_without] at hlines
      have halike : (transcribeFrom settings lib lib.limit name 1 source
          { w.control with chain := [Path.clean name] }).Alike Position.unnumbered
            (transcribeFrom settings lib lib.limit name 1 { source with text := source.text.without spans }
              { w.control with chain := [Path.clean name] }) :=
        hlines.andThen fun _ => ⟨hlines.control, rfl, rfl⟩
      refine ⟨?_, ?_⟩
      · rw [hwhole.2, hrest.2]
        exact halike.stop.symm
      · rw [hwhole.1, hrest.1]
        exact (halike.leave.relocate_apply rfl rfl).symm

/-- A document that has directives outside of its regions, one of them on two lines. -/
def straying : Text := List.flatten
  ["=use_chunk x\n", "=begin litweb\n", "=begin_chunk c\n", "=end litweb\n", "=pipe_chunk c \\\n", " rm\n", "=include f\n",
    "=begin litweb\n", "=use_chunk d"]

/-- The lines outside, in some order. -/
def strays : List Span := [⟨4, 2⟩, ⟨0, 1⟩, ⟨6, 1⟩]

/-- They are left out, and the chunk holds what it held, at the position that the line has now. -/
theorem parse_outside_straying :
    (∀ s ∈ strays, s.Inert .standard (.ofList []) "f" straying .empty) ∧
    straying.without strays = "=begin litweb\n=begin_chunk c\n=end litweb\n=begin litweb\n=use_chunk d" ∧
    (Web.empty.parse .standard (.ofList []) true "f" { text := straying.without strays }).1.web.relocate
        Position.unnumbered =
      (Web.empty.parse .standard (.ofList []) true "f" { text := straying }).1.web.relocate Position.unnumbered ∧
    (Web.empty.parse .standard (.ofList []) true "f" { text := straying }).1.web.repository.chunk =
      [(("c" : Text), ⟨#[.use ⟨.chunk, ["d"], "=use_chunk d", ⟨"f", 9⟩⟩], false⟩)] := by
  have hspans : ∀ s ∈ strays, s.Inert .standard (.ofList []) "f" straying .empty := by
    have hread : ∀ s ∈ strays, s.start + s.length ≤ (physicalLines straying).length ∧
        let o := Web.empty.readLines .standard (.ofList []) "f" (s.before (physicalLines straying))
        o.2.isNone ∧ o.1.web.pending = none ∧ o.1.web.inRegion = false ∧ o.1.web.includeCode = false := by
      decide +kernel
    intro s hs
    obtain ⟨hends, hstop, hpending, hregion, hcode⟩ := hread s hs
    refine ⟨hends, Option.isNone_iff_eq_none.mp hstop, hpending, hregion, hcode, ?_⟩
    simp only [strays, List.mem_cons, List.not_mem_nil, or_false] at hs
    rcases hs with rfl | rfl | rfl <;> exact ⟨_, by rfl, by decide⟩
  exact ⟨hspans, by decide, (parse_outside .standard (.ofList []) true "f" { text := straying } hspans).2,
    by decide⟩

end Literate
