import Literate.Proofs.Faults
import Literate.Proofs.Inlining
import Literate.Proofs.Passage
import Mathlib.Data.List.Chain

/-!
# Regions

In each document the lines that begin regions and those that end regions have to alternate, whatever is included between
them: a document that is included starts outside of any region, and when it ends, the region goes on that included it.

What one step of a call does to regions is said once (`Desk.Turn`). By induction along a passage, whether a region is
open in a document is decided by the last delimiter that was read of it (`Passage.alternates`). The main statement is
that a call succeeds if and only if the delimiters of each document alternate, and otherwise stops at the first one that
does not, which changes nothing (`parse_regions`).
-/

namespace Literate

open Text Log

/-! ## Delimiters -/

namespace Grammar

variable (g : Grammar)

/-- Whether a line begins a region or ends one, if it does either. -/
def delimiter? (l : LogicalLine) : Option Bool :=
  if g.isBegin l.body then some true else if g.isEnd l.body then some false else none

/-- The delimiters among lines alternate: a region is begun where none is open, and ended where one is. -/
def Alternates (inRegion : Bool) (ls : List LogicalLine) : Prop :=
  (inRegion :: ls.filterMap g.delimiter?).IsChain (· ≠ ·)

/-- Whether a region is open after lines: the last delimiter among them says so. -/
def regionAfter (inRegion : Bool) (ls : List LogicalLine) : Bool := (ls.filterMap g.delimiter?).getLast?.getD inRegion

variable {g} {inRegion : Bool} {ls : List LogicalLine} {l : LogicalLine}

theorem alternates_nil : g.Alternates inRegion [] := List.isChain_singleton inRegion

theorem getLast?_delimiters : (inRegion :: ls.filterMap g.delimiter?).getLast? = some (g.regionAfter inRegion ls) := by
  rw [List.getLast?_cons, regionAfter]

/-- One more line: it is no delimiter that repeats the last one. -/
theorem alternates_snoc :
    g.Alternates inRegion (ls ++ [l]) ↔
      g.Alternates inRegion ls ∧ g.delimiter? l ≠ some (g.regionAfter inRegion ls) := by
  unfold Alternates
  rw [List.filterMap_append, ← List.cons_append]
  cases hl : g.delimiter? l with
  | none => simp [hl]
  | some b =>
    rw [List.filterMap_cons_some hl, List.filterMap_nil, List.isChain_append, getLast?_delimiters]
    simp [eq_comm]

theorem regionAfter_snoc : g.regionAfter inRegion (ls ++ [l]) = (g.delimiter? l).getD (g.regionAfter inRegion ls) := by
  unfold regionAfter
  rw [List.filterMap_append]
  cases hl : g.delimiter? l with
  | none => simp [hl]
  | some b => simp [hl]

theorem delimiter?_eq_none_iff : g.delimiter? l = none ↔ ¬ g.isBegin l.body = true ∧ ¬ g.isEnd l.body = true := by
  unfold delimiter?
  by_cases hb : g.isBegin l.body = true
  · simp [hb]
  · by_cases he : g.isEnd l.body = true <;> simp [hb, he]

/-- Inside a region, a delimiter is classified as what it is. -/
theorem classify_of_delimiter {b : Bool} (h : g.delimiter? l = some b) :
    g.classify l = some (if b then .beginRegion else .endRegion, []) := by
  unfold delimiter? at h
  by_cases hb : g.isBegin l.body = true
  · rw [if_pos hb] at h
    obtain rfl := Option.some.inj h
    exact g.classifyBy_cons_of_some (d := .beginRegion) (if_pos hb) _
  · rw [if_neg hb] at h
    by_cases he : g.isEnd l.body = true
    · rw [if_pos he] at h
      obtain rfl := Option.some.inj h
      exact (g.classifyBy_cons_of_none (d := .beginRegion) (if_neg hb) _).trans
        (g.classifyBy_cons_of_some (d := .endRegion) (if_pos he) _)
    · rw [if_neg he] at h
      cases h

/-- And what is classified as the beginning or the end of a region is one. -/
theorem delimiter?_of_classify {args : Text} :
    (g.classify l = some (.beginRegion, args) → g.delimiter? l = some true) ∧
      (g.classify l = some (.endRegion, args) → g.delimiter? l = some false) := by
  refine ⟨fun h => ?_, fun h => ?_⟩
  · have hm : (if g.isBegin l.body then some [] else none) = some args := g.match?_of_classify h
    split at hm
    · rename_i hb
      exact if_pos hb
    · cases hm
  · have hm : (if g.isEnd l.body then some [] else none) = some args := g.match?_of_classify h
    cases hd : g.delimiter? l with
    | none =>
      rw [if_neg (delimiter?_eq_none_iff.mp hd).2] at hm
      cases hm
    | some b =>
      have hc := (classify_of_delimiter hd).symm.trans h
      cases b with
      | true => cases hc
      | false => rfl

end Grammar

/-- Outside of regions, a line that delimits none is stored where code is included, and does nothing elsewhere. -/
theorem transcribeLine_outside {settings : Settings} (lib : Library) (read : Transcriber) {l : LogicalLine} {c : Control}
    (hc : c.inRegion = false) (hl : settings.grammar.delimiter? l = none) :
    transcribeLine settings lib read l c = ⟨c, if c.includeCode then [.literal l.text] else [], none⟩ := by
  obtain ⟨hbegin, hend⟩ := Grammar.delimiter?_eq_none_iff.mp hl
  rw [transcribeLine, if_neg (by rw [hc]; exact Bool.false_ne_true), transcribeOutside, if_neg hbegin, if_neg hend]
  split <;> rfl

/-! ## One line -/

namespace Desk

variable {settings : Settings} {lib : Library} {d e f start : Desk} {l : LogicalLine}

/-- A line that includes a file stands in a region, and delimits none. -/
theorem delimiter?_of_includes {inRegion : Bool} {target : Text}
    (h : includeTarget? settings inRegion l = some target) :
    inRegion = true ∧ settings.grammar.delimiter? l = none := by
  unfold includeTarget? at h
  cases inRegion with
  | false => cases h
  | true =>
    refine ⟨rfl, ?_⟩
    cases hd : settings.grammar.delimiter? l with
    | none => rfl
    | some b =>
      rw [if_pos rfl, Grammar.classify_of_delimiter hd] at h
      cases b <;> cases h

/-- The failure of a delimiter where a region is open or not. -/
def misplaced (inRegion : Bool) (l : LogicalLine) (chain : List Text) : Stop :=
  .failed (.delimiter (if inRegion then .regionNested else .regionOutside) l chain)

variable (settings lib) in
/-- A line that includes nothing stops a call if it is a delimiter that repeats the last one, and does nothing then.
Otherwise a delimiter opens or closes the region, and any other line leaves it; what waits and the chain are as they
were. -/
theorem transcribeLine_region (l : LogicalLine) {c : Control} (h : includeTarget? settings c.inRegion l = none) :
    (settings.grammar.delimiter? l = some c.inRegion ∧
      transcribeLine settings lib idleTranscriber l c = ⟨c, [], some (misplaced c.inRegion l c.chain)⟩) ∨
    (settings.grammar.delimiter? l ≠ some c.inRegion ∧
      (transcribeLine settings lib idleTranscriber l c).stop = none ∧
      ∃ includeCode, (transcribeLine settings lib idleTranscriber l c).control =
        { c with inRegion := (settings.grammar.delimiter? l).getD c.inRegion, includeCode }) := by
  obtain ⟨inRegion, includeCode, pending, chain⟩ := c
  cases inRegion with
  | true =>
    unfold transcribeLine
    rw [if_pos rfl]
    unfold transcribeInside
    cases hd : settings.grammar.delimiter? l with
    | some b =>
      rw [Grammar.classify_of_delimiter hd]
      cases b with
      | true => exact Or.inl ⟨rfl, rfl⟩
      | false => exact Or.inr ⟨Bool.false_ne_true ∘ Option.some.inj, rfl, _, rfl⟩
    | none =>
      refine Or.inr ⟨(Option.some_ne_none _).symm, ?_⟩
      cases hc : settings.grammar.classify l with
      | none => exact ⟨rfl, _, rfl⟩
      | some p =>
        obtain ⟨p, args⟩ := p
        cases p with
        | beginRegion => exact absurd (hd.symm.trans (Grammar.delimiter?_of_classify.1 hc)) (Option.some_ne_none _).symm
        | endRegion => exact absurd (hd.symm.trans (Grammar.delimiter?_of_classify.2 hc)) (Option.some_ne_none _).symm
        | includeFile =>
          simp only [includeTarget?, if_true, hc, List.head?_eq_none_iff] at h
          dsimp only
          rw [h]
          exact ⟨rfl, _, rfl⟩
        | _ => exact ⟨rfl, _, rfl⟩
  | false =>
    unfold transcribeLine
    rw [if_neg Bool.false_ne_true]
    unfold transcribeOutside Grammar.delimiter?
    by_cases hb : settings.grammar.isBegin l.body = true
    · rw [if_pos hb, if_pos hb]
      exact Or.inr ⟨fun h => Bool.false_ne_true (Option.some.inj h).symm, rfl, _, rfl⟩
    · rw [if_neg hb, if_neg hb]
      by_cases he : settings.grammar.isEnd l.body = true
      · rw [if_pos he, if_pos he]
        exact Or.inl ⟨rfl, rfl⟩
      · rw [if_neg he, if_neg he]
        refine Or.inr ⟨(Option.some_ne_none _).symm, ?_⟩
        split <;> exact ⟨rfl, _, rfl⟩

/-! ## One step -/

/-- What a step does to regions, in a call in which every file that is to be included can be read. -/
inductive Turn (g : Grammar) (d e : Desk) : Prop
  /-- A document has ended, and the region goes on that it was included in. -/
  | closes : d.line? = none → d.pages.length = e.pages.length + 1 → e.stop = none →
      (e.pages ≠ [] → e.session.web.inRegion = true) → Turn g d e
  /-- A physical line waits for the next one. -/
  | holds : d.line? = none → e.pages.length = d.pages.length → e.stop = none →
      e.session.web.inRegion = d.session.web.inRegion → Turn g d e
  /-- A line includes a file, which begins outside of any region. -/
  | includes {l : LogicalLine} : d.line? = some l → g.delimiter? l = none → d.session.web.inRegion = true →
      e.pages.length = d.pages.length + 1 → e.stop = none → e.session.web.inRegion = false → Turn g d e
  /-- A line is read. -/
  | reads {l : LogicalLine} : d.line? = some l → g.delimiter? l ≠ some d.session.web.inRegion →
      e.pages.length = d.pages.length → e.stop = none →
      e.session.web.inRegion = (g.delimiter? l).getD d.session.web.inRegion → Turn g d e
  /-- A delimiter repeats the last one. -/
  | stops {l : LogicalLine} : d.line? = some l → g.delimiter? l = some d.session.web.inRegion →
      e.pages.length = d.pages.length →
      e.stop = some (misplaced d.session.web.inRegion l d.session.web.chain) →
      e.session.web = { d.session.web with pending := none } → Turn g d e

/-- No source ends in a failure, and every file that is to be included can be read, and is not being read already. -/
structure Untroubled (settings : Settings) (lib : Library) (start : Desk) : Prop where
  endings : ∀ d, Leads settings lib start d → ∀ page ∈ d.pages, page.ending = none
  resolves : ∀ d, Leads settings lib start d → ∀ l target, d.line? = some l →
    includeTarget? settings d.session.web.inRegion l = some target → ∃ path found,
      lib.first? (candidates settings.searchPath target l.position.file) none = .ok (path, found) ∧
        Path.clean path ∉ d.session.web.chain

variable (settings) in
/-- A file that is found, and is not being read already, is put on top. -/
theorem enter_of_first? {target path : Text} {found : Source} (s : Session) (pages : List Page)
    (hf : lib.first? (candidates settings.searchPath target l.position.file) none = .ok (path, found))
    (hc : Path.clean path ∉ s.web.chain) :
    (enter settings lib target l s pages).pages = .ofSource path found :: pages ∧
      (enter settings lib target l s pages).stop = none ∧
      (enter settings lib target l s pages).session.web.inRegion = false := by
  obtain ⟨hw, ho⟩ := s.openFirst_eq lib (candidates settings.searchPath target l.position.file) none
  unfold enter
  generalize s.openFirst lib (candidates settings.searchPath target l.position.file) none = x at hw ho
  obtain ⟨⟨web, events⟩, x⟩ := x
  obtain rfl : web = s.web := hw
  obtain rfl : x = .ok (path, found) := ho.trans hf
  dsimp only
  rw [if_neg fun h => hc (List.contains_iff_mem.mp h)]
  exact ⟨rfl, rfl, rfl⟩

/-- Every step of a call is a turn, until one of them stops the call. -/
theorem Untroubled.turn (h : Untroubled settings lib start) (hl : Leads settings lib start d) (hd : d.stop = none)
    (hs : step? settings lib d = some e) : Turn settings.grammar d e := by
  have hend := h.endings d hl
  have hresolves := h.resolves d hl
  obtain ⟨s, pages, stop⟩ := d
  obtain rfl : stop = none := hd
  rcases pages with _ | ⟨⟨file, n, _ | ⟨text, rest⟩, ending⟩, below⟩
  · exact nomatch hs
  · -- the document has ended, and its source without a failure
    obtain rfl : ending = none := hend _ List.mem_cons_self
    obtain rfl := Option.some.inj hs
    refine .closes rfl rfl rfl fun hne => ?_
    show (s.web.inRegion || !below.isEmpty) = true
    rw [List.isEmpty_eq_false_iff.mpr (show below ≠ [] from hne), Bool.not_false, Bool.or_true]
  · simp only [step?] at hs
    cases hf : fold s.web.pending ⟨file, n⟩ text with
    | inl fragment =>
      rw [hf] at hs
      obtain rfl := Option.some.inj hs
      exact .holds (by simp only [line?, hf, Sum.getRight?_inl]) rfl rfl rfl
    | inr l =>
      rw [hf] at hs
      have hline : line? ⟨s, ⟨file, n, text :: rest, ending⟩ :: below, none⟩ = some l := by
        simp only [line?, hf, Sum.getRight?_inr]
      obtain rfl := Option.some.inj hs
      unfold readLine
      cases ht : includeTarget? settings s.web.inRegion l with
      | some target =>
        obtain ⟨path, found, hfirst, hchain⟩ := hresolves l target hline ht
        obtain ⟨hregion, hdelimiter⟩ := delimiter?_of_includes ht
        rw [show includeTarget? settings (s.modify fun w => { w with pending := none }).web.inRegion l = some target
          from ht]
        obtain ⟨hpages, hstop, hopen⟩ := enter_of_first? settings
          (Session.log (s.modify fun w => { w with pending := none }) .trace "directive"
            [Attr.text "keyword" Directive.includeFile.label, Attr.text "position" l.position.text])
          (⟨file, n + 1, rest, ending⟩ :: below) hfirst hchain
        exact .includes hline hdelimiter hregion (by rw [hpages]; rfl) hstop hopen
      | none =>
        rw [show includeTarget? settings (s.modify fun w => { w with pending := none }).web.inRegion l = none from ht]
        have hscan : Transcribes _ _ (scanLine settings lib idle l (s.modify fun w => { w with pending := none })) :=
          line_transcribes idle_transcribed l _
        rcases transcribeLine_region settings lib l
          (c := (s.modify fun w => { w with pending := none }).web.control) ht
          with ⟨hdelimiter, ht⟩ | ⟨hne, hstop, _, hafter⟩
        · rw [ht] at hscan
          exact .stops hline hdelimiter rfl hscan.2 hscan.1
        · have hcontrol := hscan.control.trans hafter
          exact .reads hline hne rfl (hscan.2.trans hstop) (congrArg Control.inRegion hcontrol)

/-! ## A passage -/

/-- Where a document begins, a region is open as it should be. -/
theorem Opens.inRegion (h : Untroubled settings lib start) {b : Bool} (hf : Opens settings lib start f b)
    (hstop : f.stop = none) : f.session.web.inRegion = b := by
  cases hf with
  | outermost => rfl
  | included hd hs hlength =>
    cases h.turn hd (stop_eq_none_of_leads (.single hs) hstop) hs with
    | closes _ hlength' => omega
    | holds _ hlength' => omega
    | includes _ _ _ _ _ hregion => exact hregion
    | reads _ _ hlength' => omega
    | stops _ _ hlength' => omega

/-- **In a document, a region is open as its last delimiter says**, and always while another document is on top of it.
As long as the call goes on, the delimiters that were read alternate. -/
theorem Passage.alternates (h : Untroubled settings lib start) (hf : Leads settings lib start f) (hne : f.pages ≠ [])
    {ls : List LogicalLine} (hp : Passage settings lib f.pages.length f ls e) (he : e.stop = none) :
    settings.grammar.Alternates f.session.web.inRegion ls ∧
      (e.pages.length = f.pages.length →
        e.session.web.inRegion = settings.grammar.regionAfter f.session.web.inRegion ls) ∧
      (f.pages.length < e.pages.length → settings.grammar.regionAfter f.session.web.inRegion ls = true) := by
  induction hp with
  | refl => exact ⟨Grammar.alternates_nil, fun _ => rfl, fun hlt => absurd hlt (Nat.lt_irrefl _)⟩
  | @own ls d e hp hd hs hle ih =>
    have hnone := stop_eq_none_of_leads (.single hs) he
    obtain ⟨halternates, hregion, -⟩ := ih hnone
    have hregion := hregion hd
    cases h.turn (hf.trans hp.leads) hnone hs with
    | closes _ hlength => omega
    | holds hline hlength _ hsame =>
      rw [hline, Option.toList_none, List.append_nil]
      exact ⟨halternates, fun _ => hsame.trans hregion, fun hlt => by omega⟩
    | includes hline hnot hopen hlength =>
      rw [hline, Option.toList_some, Grammar.alternates_snoc, Grammar.regionAfter_snoc, hnot]
      exact ⟨⟨halternates, (Option.some_ne_none _).symm⟩, fun heq => by omega, fun _ => hregion.symm.trans hopen⟩
    | reads hline hfits hlength _ hafter =>
      rw [hline, Option.toList_some, Grammar.alternates_snoc, Grammar.regionAfter_snoc, ← hregion]
      exact ⟨⟨halternates, hfits⟩, fun _ => hafter, fun hlt => by omega⟩
    | stops _ _ _ hstop => exact absurd (he.symm.trans hstop) (Option.some_ne_none _).symm
  | @inner ls d e hp hlt hs ih =>
    have hnone := stop_eq_none_of_leads (.single hs) he
    obtain ⟨halternates, -, habove⟩ := ih hnone
    have habove := habove hlt
    refine ⟨halternates, fun heq => ?_, fun _ => habove⟩
    rw [habove]
    cases h.turn (hf.trans hp.leads) hnone hs with
    | closes _ _ _ hopen =>
      refine hopen fun hnil => hne ?_
      rw [← List.length_eq_zero_iff, ← heq, hnil, List.length_nil]
    | holds _ hlength => omega
    | includes _ _ _ hlength => omega
    | reads _ _ hlength => omega
    | stops _ _ hlength => omega

/-- A call is given up at a delimiter that repeats the last one. This line changes nothing. -/
theorem Untroubled.exists_stop (h : Untroubled settings lib start) (hstart : start.stop = none)
    (hl : Leads settings lib start f) {stop : Stop} (hf : f.stop = some stop) :
    ∃ d e l, Leads settings lib start d ∧ d.stop = none ∧ step? settings lib d = some e ∧ d.line? = some l ∧
      settings.grammar.delimiter? l = some d.session.web.inRegion ∧ e.pages.length = d.pages.length ∧
      stop = misplaced d.session.web.inRegion l d.session.web.chain ∧
      f.session.web = d.session.web.under f.session.web.control := by
  obtain ⟨d, e, hd, hnone, hs, he, hrest⟩ := exists_stopping hl hstart hf
  have hgoes : e.stop ≠ none := by simp [he]
  cases h.turn hd hnone hs with
  | closes _ _ hstop => exact absurd hstop hgoes
  | holds _ _ hstop => exact absurd hstop hgoes
  | includes _ _ _ _ hstop => exact absurd hstop hgoes
  | reads _ _ _ hstop => exact absurd hstop hgoes
  | stops hline hdelimiter hlength hstop hweb =>
    have hunder := leads_web_of_stop hrest he
    rw [hweb] at hunder
    exact ⟨d, e, _, hd, hnone, hs, hline, hdelimiter, hlength, Option.some.inj (he.symm.trans hstop), hunder⟩

/-- As long as a call goes on, the delimiters of each document alternate. -/
theorem Untroubled.alternates (h : Untroubled settings lib start) (hstart : start.pages ≠ []) (he : e.stop = none)
    {b : Bool} (hf : Opens settings lib start f b) {ls : List LogicalLine}
    (hp : Passage settings lib f.pages.length f ls e) : settings.grammar.Alternates b ls := by
  rw [← hf.inRegion h (stop_eq_none_of_leads hp.leads he)]
  exact (hp.alternates h hf.leads (hf.pages_ne_nil hstart) he).1

/-- Where a call stops, a delimiter repeats the last one of its document. -/
theorem Untroubled.repeats (h : Untroubled settings lib start) (hstart : start.pages.length = 1)
    (hl : Leads settings lib start d) (hd : d.stop = none) (hline : d.line? = some l)
    (hdelimiter : settings.grammar.delimiter? l = some d.session.web.inRegion) :
    ∃ f b ls, Opens settings lib start f b ∧ f.pages.length = d.pages.length ∧
      Passage settings lib f.pages.length f ls d ∧ settings.grammar.Alternates b ls ∧
      ¬ settings.grammar.Alternates b (ls ++ [l]) := by
  have hne : start.pages ≠ [] := by
    rw [← List.length_pos_iff, hstart]
    exact Nat.one_pos
  have hpos : 1 ≤ d.pages.length := by
    obtain ⟨s, _ | ⟨page, below⟩, stop⟩ := d
    · cases stop <;> cases hline
    · exact Nat.succ_le_succ (Nat.zero_le _)
  obtain ⟨f, b, ls, hf, hheight, hp⟩ := exists_passage hstart hl hpos (Nat.le_refl _)
  rw [← hheight] at hp
  have hregion := (hp.alternates h hf.leads (hf.pages_ne_nil hne) hd).2.1 hheight.symm
  rw [hf.inRegion h (stop_eq_none_of_leads hp.leads hd)] at hregion
  refine ⟨f, b, ls, hf, hheight, hp, h.alternates hne hd hf hp, fun hbad => ?_⟩
  exact (Grammar.alternates_snoc.mp hbad).2 (hdelimiter.trans (congrArg some hregion))

end Desk

/-! ## Whole calls -/

/-- If no source ends in a failure, no document on the desk does. -/
theorem Desk.ending_eq_none {settings : Settings} {lib : Library} {name : Text} {source : Source} {w : Web}
    (hsource : source.stop? name = none) (hlib : ∀ path found, lib.read path = .ok found → found.stop? path = none)
    {d : Desk} (hl : Leads settings lib (.start name source w) d) : ∀ page ∈ d.pages, page.ending = none := by
  induction hl with
  | refl => exact fun page hm => List.mem_singleton.mp hm ▸ hsource
  | @tail d e _ hs ih =>
    rcases step?_cases hs with ⟨page, below, stop, hp, rfl, _⟩ | ⟨file, n, text, rest, ending, below, hp, _, hstep⟩
    · exact fun page hm => ih page (by rw [hp]; exact List.mem_cons_of_mem _ hm)
    · have hpages : ∀ page ∈ (⟨file, n + 1, rest, ending⟩ : Page) :: below, page.ending = none := by
        intro page hm
        rcases List.mem_cons.mp hm with rfl | hm
        · exact ih ⟨file, n, text :: rest, ending⟩ (by rw [hp]; exact List.mem_cons_self)
        · exact ih page (by rw [hp]; exact List.mem_cons_of_mem _ hm)
      rcases hstep with ⟨fragment, _, rfl⟩ | ⟨l, _, _, rfl⟩
      · exact hpages
      · unfold readLine
        split
        · rename_i target _
          rcases enter_cases settings lib target l _ _ with ⟨_, _, _, he, _⟩ | ⟨path, found, hr, _, _, he, _⟩
          · rw [he]
            exact hpages
          · rw [he]
            intro page hm
            rcases List.mem_cons.mp hm with rfl | hm
            · exact hlib path found hr
            · exact hpages page hm
        · exact hpages

/-- **Regions alternate in each document.** A source is read into a web that is not expanded, no source ends in a
failure, and every file that is to be included can be read and is not being read already. The call succeeds if and only
if in each document that is read the delimiters of regions alternate: in the source from what is open at the start, and
in every included file from outside.

If it does not succeed, it stops at a line that begins a region where one is open, or ends one where none is, with the
failure that says so; up to there the delimiters of all documents alternate, and the web that is left behind is the one
before this line, apart from what decides how lines are read. -/
theorem parse_regions (settings : Settings) {lib : Library} {names : Finset Text} (hnames : lib.Opens names)
    (hlimit : names.card ≤ lib.limit) (name : Text) (source : Source) {w : Web} (hw : w.expanded = false)
    (hsource : source.stop? name = none) (hlib : ∀ path found, lib.read path = .ok found → found.stop? path = none)
    (hresolves : ∀ d, Desk.Leads settings lib (.start name source w) d → ∀ l target, d.line? = some l →
      includeTarget? settings d.session.web.inRegion l = some target → ∃ path found,
        lib.first? (candidates settings.searchPath target l.position.file) none = .ok (path, found) ∧
          Path.clean path ∉ d.session.web.chain) :
    let start := Desk.start name source w
    let call := w.parse settings lib true name source
    let g := settings.grammar
    (call.2 = none ↔ ∀ f b, Desk.Opens settings lib start f b →
      ∀ ls e, Desk.Passage settings lib f.pages.length f ls e → g.Alternates b ls) ∧
    ∀ stop, call.2 = some stop → ∃ d l, Desk.Leads settings lib start d ∧ d.line? = some l ∧
      (∃ f b ls, Desk.Opens settings lib start f b ∧ f.pages.length = d.pages.length ∧
        Desk.Passage settings lib f.pages.length f ls d ∧ g.Alternates b ls ∧ ¬ g.Alternates b (ls ++ [l])) ∧
      (∀ d', Desk.Leads settings lib start d' → Desk.Leads settings lib d' d → ∀ f b ls,
        Desk.Opens settings lib start f b → Desk.Passage settings lib f.pages.length f ls d' → g.Alternates b ls) ∧
      (g.delimiter? l = some true ∧ stop = .failed (.delimiter .regionNested l d.session.web.chain) ∨
        g.delimiter? l = some false ∧ stop = .failed (.delimiter .regionOutside l d.session.web.chain)) ∧
      call.1.web = d.session.web.under call.1.web.control := by
  intro start call g
  have h : Desk.Untroubled settings lib start :=
    ⟨fun d hd => Desk.ending_eq_none hsource hlib hd, hresolves⟩
  have hstart : start.pages ≠ [] := List.cons_ne_nil _ _
  obtain ⟨t, ht, hend⟩ := parse_leads settings hnames hlimit name source hw
  refine ⟨⟨fun hs f b hf ls e hp => ?_, fun hall => ?_⟩, fun stop hs => ?_⟩
  · -- every moment of a call that goes through comes before its end
    have hlast : Desk.Leads settings lib e ⟨t, [], call.2⟩ := by
      rcases Desk.leads_total (hf.leads.trans hp.leads) hend with hl | hl
      · exact hl
      · rcases hl.cases_head with heq | ⟨_, hstep, _⟩
        · exact heq ▸ .refl
        · exact nomatch hstep
    exact h.alternates hstart (Desk.stop_eq_none_of_leads hlast hs) hf hp
  · cases hs : call.2 with
    | none => rfl
    | some stop =>
      obtain ⟨d, e, l, hd, hnone, hstep, hline, hdelimiter, hlength, -⟩ := h.exists_stop rfl hend hs
      obtain ⟨f, b, ls, hf, hheight, hp, -, hbad⟩ := h.repeats rfl hd hnone hline hdelimiter
      have hp' := hp.own hheight.symm hstep (by omega)
      rw [hline, Option.toList_some] at hp'
      exact absurd (hall f b hf _ e hp') hbad
  · obtain ⟨d, e, l, hd, hnone, hstep, hline, hdelimiter, hlength, rfl, hweb⟩ := h.exists_stop rfl hend hs
    refine ⟨d, l, hd, hline, h.repeats rfl hd hnone hline hdelimiter, fun d' _ hl f b ls hf hp => ?_, ?_, ?_⟩
    · exact h.alternates hstart (Desk.stop_eq_none_of_leads hl hnone) hf hp
    · unfold Desk.misplaced
      cases hregion : d.session.web.inRegion with
      | true => exact Or.inl ⟨hregion ▸ hdelimiter, rfl⟩
      | false => exact Or.inr ⟨hregion ▸ hdelimiter, rfl⟩
    · rw [← ht]
      exact hweb

/-- Whether the file that is included next, if there is one, can be read and is not being read already. -/
def Desk.resolvesNext (settings : Settings) (lib : Library) (d : Desk) : Bool :=
  d.line?.all fun l =>
    (includeTarget? settings d.session.web.inRegion l).all fun target =>
      match lib.first? (candidates settings.searchPath target l.position.file) none with
      | .ok (path, _) => !d.session.web.chain.contains (Path.clean path)
      | .error _ => false

theorem Desk.exists_of_resolvesNext {settings : Settings} {lib : Library} {d : Desk} (h : d.resolvesNext settings lib)
    {l : LogicalLine} {target : Text} (hl : d.line? = some l)
    (ht : includeTarget? settings d.session.web.inRegion l = some target) : ∃ path found,
      lib.first? (candidates settings.searchPath target l.position.file) none = .ok (path, found) ∧
        Path.clean path ∉ d.session.web.chain := by
  unfold resolvesNext at h
  rw [hl, Option.all_some, ht, Option.all_some] at h
  cases hf : lib.first? (candidates settings.searchPath target l.position.file) none with
  | error e =>
    rw [hf] at h
    exact absurd h Bool.false_ne_true
  | ok found =>
    rw [hf] at h
    exact ⟨found.1, found.2, rfl, fun hm => by simp [hm] at h⟩

/-- A file with a region of its own. -/
def enclosed : List (Text × Source) := [("b", { text := "=begin litweb\nx\n=end litweb\n" })]

/-- A document that includes the file inside a region, and then begins the region again. -/
def reopening : Source := { text := "=begin litweb\n=include b\n=begin litweb\n" }

/-- The call stops at its last line, since the region went on after the file. -/
theorem parse_regions_reopening :
    (Library.ofList enclosed).Opens (enclosed.map (Path.clean ·.1)).toFinset ∧
    (enclosed.map (Path.clean ·.1)).toFinset.card ≤ (Library.ofList enclosed).limit ∧
    reopening.stop? "f" = none ∧
    (∀ path found, (Library.ofList enclosed).read path = .ok found → found.stop? path = none) ∧
    ∃ d l, Desk.Leads .standard (.ofList enclosed) (.start "f" reopening .empty) d ∧ d.line? = some l ∧
      (Web.empty.parse .standard (.ofList enclosed) true "f" reopening).2 =
        some (.failed (.delimiter .regionNested l d.session.web.chain)) := by
  have hopens := Library.opens_ofList enclosed
  have hcard := Library.card_le_ofList enclosed
  have hlib : ∀ path found, (Library.ofList enclosed).read path = .ok found → found.stop? path = none := by
    intro path found hr
    obtain ⟨rfl, rfl⟩ := Prod.mk.inj (List.mem_singleton.mp (Library.mem_of_read_ofList hr))
    rfl
  have hresolves : Desk.throughout .standard (.ofList enclosed) (Desk.resolvesNext .standard (.ofList enclosed)) 10
      (.start "f" reopening .empty) = true := by
    decide
  obtain ⟨f, hstop, hf⟩ := Web.eq_failed_of_hasFailedWith
    (show Web.hasFailedWith .regionNested (Web.empty.parse .standard (.ofList enclosed) true "f" reopening).2 by
      decide)
  obtain ⟨-, hstops⟩ := parse_regions .standard hopens hcard "f" reopening rfl rfl hlib
    fun d hd l target hl ht => Desk.exists_of_resolvesNext (Desk.throughout_leads hresolves hd) hl ht
  obtain ⟨d, l, hd, hline, -, -, ⟨-, hfailure⟩ | ⟨-, hfailure⟩, -⟩ := hstops _ hstop
  · exact ⟨hopens, hcard, rfl, hlib, d, l, hd, hline, hstop.trans (congrArg some hfailure)⟩
  · obtain rfl := Stop.failed.inj hfailure
    exact absurd (((Failure.delimiter_madeOf _ l _).ofKind.hasFault _).mp hf) (by decide)

end Literate
