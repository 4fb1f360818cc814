import Literate.Proofs.Inclusion
import Literate.Proofs.Recognition

/-!
# Inlining

A file that is included might as well stand in the place of the directive, between a line that ends the region and one
that begins another. The two documents are read in step (`parse_inlining`): a file that includes nothing itself is
transcribed alike in any place (`transcribeLines_quiet`), and what stands around it is the same.
-/

namespace Literate

open Text Log

/-! ## What is carried out -/

namespace Desk

variable {settings : Settings} {lib : Library} {d e : Desk}

theorem directive?_of_includes {l : LogicalLine} {target : Text} (hl : d.line? = some l)
    (ht : includeTarget? settings d.session.web.inRegion l = some target) :
    d.directive? settings = some .includeFile := by
  unfold includeTarget? at ht
  split at ht
  · rename_i hr
    split at ht
    · rename_i args hd
      unfold directive?
      rw [if_pos hr, hl, Option.bind_some, hd]
      rfl
    · exact nomatch ht
  · exact nomatch ht

variable (settings lib) in
/-- Only the directive that asks for it makes code be included. -/
theorem transcribeLine_idle_includeCode (l : LogicalLine) {c : Control}
    (h : c.inRegion = true → (settings.grammar.classify l).map (·.1) ≠ some .includeCode) (hc : c.includeCode = false) :
    (transcribeLine settings lib idleTranscriber l c).control.includeCode = false := by
  unfold transcribeLine
  split
  · rename_i hr
    have h := h hr
    unfold transcribeInside
    cases hd : settings.grammar.classify l with
    | none => exact hc
    | some d =>
      obtain ⟨d, args⟩ := d
      rw [hd] at h
      cases d with
      | includeCode => exact absurd rfl h
      | includeFile =>
        dsimp only
        cases fields args with
        | nil => exact hc
        | cons target rest =>
          dsimp only [transcribeInclude]
          split
          · exact hc
          · split <;> exact hc
      | _ => exact hc
  · unfold transcribeOutside
    split
    · rfl
    · split
      · exact hc
      · split <;> exact hc

/-- A step that does not carry out the directive for it leaves code out, as before. -/
theorem step?_includeCode (hs : step? settings lib d = some e) (hd : d.directive? settings ≠ some .includeCode)
    (hc : d.session.web.includeCode = false) : e.session.web.includeCode = false := by
  rcases step?_cases hs with ⟨page, below, stop, _, rfl, _⟩ |
    ⟨file, n, text, rest, ending, below, _, _, ⟨fragment, _, rfl⟩ | ⟨l, _, hl, rfl⟩⟩
  · exact hc
  · exact hc
  · unfold readLine
    split
    · rename_i target _
      rcases enter_cases settings lib target l
        (Session.log (d.session.modify fun w => { w with pending := none }) .trace "directive"
          [Attr.text "keyword" Directive.includeFile.label, Attr.text "position" l.position.text])
        (⟨file, n + 1, rest, ending⟩ :: below) with ⟨_, _, _, _, hw⟩ | ⟨_, _, _, _, _, _, hw⟩
      · exact (congrArg Web.includeCode hw).trans hc
      · exact (congrArg Web.includeCode hw).trans hc
    · have hcontrol := scanLine_idle_control settings lib l (d.session.modify fun w => { w with pending := none })
      refine (congrArg Control.includeCode hcontrol).trans (transcribeLine_idle_includeCode settings lib l ?_ hc)
      intro hr hcode
      refine hd ?_
      have hr : d.session.web.inRegion = true := hr
      unfold directive?
      rw [if_pos hr, hl, Option.bind_some]
      exact hcode

/-- If the directive for it is never carried out, code is left out throughout. -/
theorem leads_includeCode (h : ∀ e, Leads settings lib d e → e.directive? settings ≠ some .includeCode)
    (hc : d.session.web.includeCode = false) (hl : Leads settings lib d e) : e.session.web.includeCode = false := by
  induction hl with
  | refl => exact hc
  | tail hl hs ih => exact step?_includeCode hs (h _ hl) ih

end Desk

/-! ## Lines that include nothing -/

/-- No position is told from another. -/
def Position.forget (_ : Position) : Position := .zero

namespace Control.Alike

variable {ρ : Position → Position} {c d e : Control}

theorem symm (h : c.Alike ρ d) : d.Alike ρ c := ⟨h.inRegion.symm, h.includeCode.symm, h.pending.symm⟩

theorem trans (h : c.Alike ρ d) (h' : d.Alike ρ e) : c.Alike ρ e :=
  ⟨h.inRegion.trans h'.inRegion, h.includeCode.trans h'.includeCode, h.pending.trans h'.pending⟩

end Control.Alike

theorem Transcript.andThen_congr {t : Transcript} {next after : Control → Transcript}
    (h : next t.control = after t.control) : t.andThen next = t.andThen after := by
  unfold andThen
  rw [h]

namespace Transcript.Alike

variable {ρ : Position → Position} {t u v : Transcript}

theorem symm (h : t.Alike ρ u) : u.Alike ρ t := ⟨h.control.symm, h.items.symm, h.stop.symm⟩

theorem trans (h : t.Alike ρ u) (h' : u.Alike ρ v) : t.Alike ρ v :=
  ⟨h.control.trans h'.control, h.items.trans h'.items, h.stop.trans h'.stop⟩

end Transcript.Alike

section Quiet

variable {settings : Settings} {lib : Library} {names : Finset Text}

/-- The files that a call includes can be read, if the bound is large enough for those that can still be opened. -/
theorem scanSource_readerLeads (settings : Settings) (hnames : lib.Opens names) {depth : Nat} {chain : List Text}
    (hc : Chained names chain) (hne : chain ≠ []) (hd : names.card + 1 ≤ chain.length + depth) :
    ReaderLeads settings lib (scanSource settings lib depth) chain := by
  intro path source s page below hr hn hs
  refine source_leads settings hnames depth path source (s := s) (hs ▸ hc.snoc hne (hnames path source hr) hn)
    (by simp [hs]) ?_ (page :: below)
  rw [hs, List.length_append, List.length_singleton]
  omega

/-- Lines that include nothing are transcribed alike in any file, whatever is read around it. -/
theorem transcribeLines_quiet {depth : Nat} (read : Transcriber) (file other : Text) (n m : Nat)
    (texts : List Text) {s : Session} (hread : ReaderLeads settings lib (scanSource settings lib depth) s.web.chain)
    (hquiet : ∀ d, Desk.Leads settings lib ⟨s, [⟨file, n, texts, none⟩], none⟩ d →
      d.directive? settings ≠ some .includeFile)
    {c : Control} (hc : s.web.control.Alike Position.forget c) :
    (transcribeLines settings lib (transcribeSource settings lib depth) file n texts s.web.control).Alike
      Position.forget (transcribeLines settings lib read other m texts c) := by
  induction texts generalizing n m s c with
  | nil => exact ⟨hc, rfl, rfl⟩
  | cons text rest ih =>
    have hp : (transcribePhysical settings lib (transcribeSource settings lib depth) ⟨file, n⟩ text
        s.web.control).Alike Position.forget (transcribePhysical settings lib read ⟨other, m⟩ text c) := by
      refine transcribePhysical_alike (show Position.forget ⟨file, n⟩ = Position.forget ⟨other, m⟩ from rfl) text hc ?_
      intro l l' target hf _ ht
      have hline : Desk.line? ⟨s, [⟨file, n, text :: rest, none⟩], none⟩ = some l := Sum.getRight?_eq_some_iff.mpr hf
      exact absurd (Desk.directive?_of_includes hline ht) (hquiet _ .refl)
    have hscan : Transcribes (transcribePhysical settings lib (transcribeSource settings lib depth) ⟨file, n⟩ text
        s.web.control) s.web (scanPhysical settings lib (scanSource settings lib depth) ⟨file, n⟩ text s) :=
      physical_transcribes (source_transcribes settings lib depth) ⟨file, n⟩ text s
    have hchain := scanPhysical_chain settings lib depth ⟨file, n⟩ text s
    have hleads := physical_leads hread file n text rest none []
    refine hp.andThen fun hstop => ?_
    generalize scanPhysical settings lib (scanSource settings lib depth) ⟨file, n⟩ text s = o at hscan hchain hleads
    obtain ⟨t, stop⟩ := o
    obtain rfl : stop = none := hscan.2.trans hstop
    have hcontrol : t.web.control = _ := hscan.control
    have hc := hp.control
    rw [← hcontrol] at hc ⊢
    exact ih (n + 1) (m + 1) (s := t) (hchain ▸ hread) (fun d hd => hquiet d (hleads.trans hd)) hc

end Quiet

/-! ## Three lines -/

section Directives

variable {settings : Settings} (lib : Library) (read : Transcriber) {c : Control}

/-- A content that one line holds is read as it stands, if no line waits for it. -/
theorem transcribeLines_asLine (settings : Settings) {t : Text} (ht : t.IsContent) (file : Text) (n : Nat)
    (more : List Text) (hc : c.pending = none) :
    transcribeLines settings lib read file n (physicalLines t.asLine ++ more) c =
      (transcribeLine settings lib read ⟨t, [byte '\n'], ⟨file, n⟩⟩ c).andThen
        (transcribeLines settings lib read file (n + 1) more) := by
  obtain ⟨inRegion, includeCode, pending, chain⟩ := c
  obtain rfl : pending = none := hc
  rw [physicalLines_asLine ht.inside, List.singleton_append, transcribeLines, transcribePhysical,
    fold_asLine ht]

theorem transcribeLine_includeLine {f : Text} (hne : f ≠ []) (hf : hasSpace f = false) (terminator : Text)
    (position : Position) (hc : c.inRegion = true) :
    transcribeLine settings lib read ⟨settings.grammar.includeLine f, terminator, position⟩ c =
      transcribeInclude settings lib read f ⟨settings.grammar.includeLine f, terminator, position⟩ c := by
  rw [transcribeLine, if_pos hc, transcribeInside, settings.grammar.classify_includeLine hf]
  dsimp only
  rw [fields_of_not_hasSpace hne hf]

theorem transcribeLine_endLine (h : ("region" : Text) ∈ settings.grammar.tags) (terminator : Text)
    (position : Position) (hc : c.inRegion = true) :
    transcribeLine settings lib read ⟨settings.grammar.endLine, terminator, position⟩ c =
      ⟨{ c with inRegion := false }, [], none⟩ := by
  rw [transcribeLine, if_pos hc, transcribeInside, settings.grammar.classify_endLine h]

theorem transcribeLine_beginLine (h : ("region" : Text) ∈ settings.grammar.tags) (terminator : Text)
    (position : Position) (hc : c.inRegion = false) :
    transcribeLine settings lib read ⟨settings.grammar.beginLine, terminator, position⟩ c =
      ⟨{ c with inRegion := true, includeCode := false }, [], none⟩ := by
  rw [transcribeLine, if_neg (by rw [hc]; exact Bool.false_ne_true), transcribeOutside,
    if_pos (settings.grammar.isBegin_beginLine h)]

end Directives

/-! ## Documents with a file in the middle -/

namespace Grammar

variable (g : Grammar)

/-- A document that includes a file between two texts. -/
def including (before f after : Text) : Text := before ++ (g.includeLine f).asLine ++ after

/-- The document with the text of the file in the place of the directive, between the end of a region and the beginning
of another. -/
def inlining (before text after : Text) : Text := before ++ (g.endLine.asLine ++ text ++ g.beginLine.asLine) ++ after

end Grammar

/-- What has to hold of a document, read into `w` under `name`, for the file that it includes to be put in the place of
the directive. Here `v` is the web after what stands before the directive. -/
structure Inlinable (settings : Settings) (lib : Library) (name before f path text after : Text) (w v : Web) : Prop where
  /-- The directive begins a line. -/
  before_whole : before.IsWhole
  /-- What stands before it goes through. -/
  before_read : ∃ events, w.parse settings lib true name { text := before } = (⟨v, events⟩, none)
  /-- It stands inside a region. -/
  inRegion : v.inRegion = true
  /-- No line goes on with it. -/
  pending : v.pending = none
  /-- It names a file. -/
  target_ne : f ≠ []
  target_spaceless : hasSpace f = false
  target_ending : f.getLast? ≠ some (byte '\\')
  /-- The file is found under a path, and can be read. -/
  found : lib.first? (candidates settings.searchPath f name) none = .ok (path, { text })
  /-- It is not being read already. -/
  fresh : Path.clean path ≠ Path.clean name
  /-- Its last line does not go on with the line after the directive. -/
  text_whole : text.IsWhole
  /-- While it is read, no directive is carried out that includes a file. -/
  text_quiet : ∀ d, Desk.Leads settings lib (.start path { text } { v with inRegion := false }) d →
    d.directive? settings ≠ some .includeFile
  /-- It ends all the regions that it begins, and leaves no line that goes on. -/
  text_closed : (Web.parse settings lib true path { text } { v with inRegion := false }).2 = none →
    (Web.parse settings lib true path { text } { v with inRegion := false }).1.web.inRegion = false ∧
    (Web.parse settings lib true path { text } { v with inRegion := false }).1.web.pending = none
  /-- Code outside of regions is not to be included, neither before nor by a directive of the document. -/
  codeless : w.includeCode = false
  no_code : ∀ d, Desk.Leads settings lib (.start name { text := settings.grammar.including before f after } w) d →
    d.directive? settings ≠ some .includeCode

section Calls

variable {settings : Settings} {lib : Library} {names : Finset Text} {name : Text} {w : Web}

variable (settings name w) in
/-- The files that a source includes can be read, from the moment at which a call begins. -/
theorem start_readerLeads (hnames : lib.Opens names) (hlimit : names.card ≤ lib.limit) (source : Source) :
    ReaderLeads settings lib (scanSource settings lib lib.limit) (Desk.start name source w).session.web.chain :=
  scanSource_readerLeads settings hnames (.singleton (Path.clean name)) (List.cons_ne_nil _ _)
    (by show _ ≤ 1 + lib.limit; omega)

/-- If no directive of a document makes code be included, it is left out after each part of the document. -/
theorem transcribeText_includeCode (hnames : lib.Opens names) (hlimit : names.card ≤ lib.limit) {text : Text}
    (h : text.IsWhole) (more : Source) (hw : w.includeCode = false)
    (hcode : ∀ d, Desk.Leads settings lib (.start name { more with text := text ++ more.text } w) d →
      d.directive? settings ≠ some .includeCode) :
    (transcribeText settings lib name text w.control).control.includeCode = false := by
  let s := (Desk.start name { more with text := text ++ more.text } w).session
  have hread := start_readerLeads settings name w hnames hlimit { more with text := text ++ more.text }
  obtain ⟨page, _, _, hl⟩ := lines_leads hread name 1 (physicalLines text) (physicalLines more.text)
    (more.stop? name) []
  rw [← physicalLines_append h] at hl
  have hscan : Transcribes (transcribeText settings lib name text w.control) s.web
      (scanLines settings lib (scanSource settings lib lib.limit) name 1 (physicalLines text) s) :=
    lines_transcribes (source_transcribes settings lib lib.limit) name 1 (physicalLines text) s
  rw [← hscan.control]
  exact Desk.leads_includeCode hcode hw hl

/-- The parts of a text are transcribed one after another, if the first has no line that goes on. -/
theorem transcribeText_append (settings : Settings) (lib : Library) (name : Text) {text : Text} (h : text.IsWhole)
    (more : Text) (c : Control) :
    transcribeText settings lib name (text ++ more) c =
      (transcribeText settings lib name text c).andThen
        (transcribeLines settings lib (transcribeSource settings lib lib.limit) name (1 + (physicalLines text).length)
          (physicalLines more)) := by
  unfold transcribeText
  rw [physicalLines_append h, transcribeLines_append]

/-- A text that is read inside other files. -/
theorem transcribeSource_text (settings : Settings) (lib : Library) {depth : Nat} (h : depth ≠ 0) (name text : Text)
    (c : Control) :
    transcribeSource settings lib depth name { text } c =
      transcribeLines settings lib (transcribeSource settings lib (depth - 1)) name 1 (physicalLines text) c := by
  obtain ⟨depth, rfl⟩ := Nat.exists_eq_succ_of_ne_zero h
  exact Transcript.andThen_done _

namespace Inlinable

variable {before f path text after : Text} {v : Web}

theorem expanded (h : Inlinable settings lib name before f path text after w v) : w.expanded = false := by
  obtain ⟨events, hread⟩ := h.before_read
  by_contra hx
  have hx : w.expanded = true := by simpa using hx
  rw [Web.parse, if_pos hx] at hread
  exact absurd (congrArg Prod.snd hread) (Option.some_ne_none _)

/-- What stands before the directive is read without a stop, and leaves the web `v`. -/
theorem before_transcribed (h : Inlinable settings lib name before f path text after w v) :
    v = (transcribeText settings lib name before w.control).leave.apply w ∧
      (transcribeText settings lib name before w.control).stop = none := by
  obtain ⟨events, hread⟩ := h.before_read
  have ht := parse_text_transcribes settings lib name h.expanded before
  rw [hread] at ht
  exact ⟨ht.1, ht.2.symm⟩

/-- The control under which the directive is read. -/
theorem before_control (hnames : lib.Opens names) (hlimit : names.card ≤ lib.limit)
    (h : Inlinable settings lib name before f path text after w v) :
    (transcribeText settings lib name before w.control).control = ⟨true, false, none, [Path.clean name]⟩ := by
  obtain ⟨hv, _⟩ := h.before_transcribed
  have hcode := transcribeText_includeCode hnames hlimit h.before_whole
    { text := (settings.grammar.includeLine f).asLine ++ after } h.codeless
    (by rw [← List.append_assoc]; exact h.no_code)
  have hchain := transcribeText_chain settings lib name before w.control
  have hregion : (transcribeText settings lib name before w.control).control.inRegion = true :=
    (congrArg Web.inRegion hv).symm.trans h.inRegion
  have hpending : (transcribeText settings lib name before w.control).control.pending = none :=
    (congrArg Web.pending hv).symm.trans h.pending
  generalize transcribeText settings lib name before w.control = t at hcode hchain hregion hpending
  obtain ⟨⟨inRegion, includeCode, pending, chain⟩, items, stop⟩ := t
  simp only at hcode hchain hregion hpending
  rw [hcode, hchain, hregion, hpending]

/-- The text of the file is transcribed in any place as it is by itself, and then stands outside of regions. -/
theorem text_transcribed (hnames : lib.Opens names) (hlimit : names.card ≤ lib.limit)
    (h : Inlinable settings lib name before f path text after w v) :
    ∃ q : Transcript, (q.stop = none → q.control.inRegion = false ∧ q.control.pending = none) ∧
      ∀ read other m chain, q.Alike Position.forget
        (transcribeLines settings lib read other m (physicalLines text) ⟨false, false, none, chain⟩) := by
  obtain ⟨hv, _⟩ := h.before_transcribed
  have hcontrol := h.before_control hnames hlimit
  have hvcode : v.includeCode = false := (congrArg Web.includeCode hv).trans (congrArg Control.includeCode hcontrol)
  have hvx : v.expanded = false := by
    rw [hv]
    exact (Web.replay_frame w _).1.trans h.expanded
  let u : Web := { v with inRegion := false }
  have hu : Transcribes (transcribeText settings lib path text u.control).leave u
      (u.parse settings lib true path { text }) := parse_text_transcribes settings lib path (w := u) hvx text
  refine ⟨transcribeText settings lib path text u.control, fun hs => ?_, fun read other m chain => ?_⟩
  · obtain ⟨hr, hp⟩ := h.text_closed (hu.2.trans hs)
    exact ⟨(congrArg Web.inRegion hu.1).symm.trans hr, (congrArg Web.pending hu.1).symm.trans hp⟩
  · exact transcribeLines_quiet read path other 1 m (physicalLines text) (s := (Desk.start path { text } u).session)
      (start_readerLeads settings path u hnames hlimit { text }) h.text_quiet
      ⟨rfl, hvcode, congrArg (Option.map _) h.pending⟩

/-- What stands before the directive and the file that it includes. -/
theorem include_transcribed (hm : hasSpace settings.grammar.marker = false) (hnames : lib.Opens names)
    (hlimit : names.card ≤ lib.limit) (h : Inlinable settings lib name before f path text after w v) :
    transcribeText settings lib name (before ++ (settings.grammar.includeLine f).asLine) w.control =
      (transcribeText settings lib name before w.control).andThen fun _ =>
        let r := transcribeSource settings lib lib.limit path { text }
          ⟨false, false, none, [Path.clean name, Path.clean path]⟩
        { r with control := { r.control with chain := [Path.clean name], inRegion := true } } := by
  rw [transcribeText_append settings lib name h.before_whole]
  refine Transcript.andThen_congr ?_
  rw [h.before_control hnames hlimit, ← List.append_nil (physicalLines (asLine _)),
    transcribeLines_asLine lib _ settings (Grammar.isContent_includeLine hm h.target_ne h.target_spaceless
      h.target_ending) name _ [] rfl, transcribeLine_includeLine lib _ h.target_ne h.target_spaceless _ _ rfl]
  refine (Transcript.andThen_done _).trans ?_
  -- the file is found, and not being read
  have hin : ¬ [Path.clean name].contains (Path.clean path) = true := by
    simpa using h.fresh
  rw [transcribeInclude, h.found]
  dsimp only
  rw [if_neg hin]
  have hr := transcribeSource_keepsChain settings lib lib.limit path { text }
    ⟨false, false, none, [Path.clean name, Path.clean path]⟩
  simp only [List.singleton_append, hr, List.dropLast_cons_cons, List.dropLast_singleton]

/-- What stands before the text that takes the place of the directive, and this text. -/
theorem inline_transcribed (hm : hasSpace settings.grammar.marker = false)
    (htag : ("region" : Text) ∈ settings.grammar.tags) (hnames : lib.Opens names) (hlimit : names.card ≤ lib.limit)
    (h : Inlinable settings lib name before f path text after w v) :
    transcribeText settings lib name
        (before ++ (settings.grammar.endLine.asLine ++ text ++ settings.grammar.beginLine.asLine)) w.control =
      (transcribeText settings lib name before w.control).andThen fun _ =>
        (transcribeLines settings lib (transcribeSource settings lib lib.limit) name
          (1 + (physicalLines before).length + 1) (physicalLines text) ⟨false, false, none, [Path.clean name]⟩).andThen
        (transcribeLines settings lib (transcribeSource settings lib lib.limit) name
          (1 + (physicalLines before).length + 1 + (physicalLines text).length)
          (physicalLines settings.grammar.beginLine.asLine)) := by
  rw [transcribeText_append settings lib name h.before_whole]
  refine Transcript.andThen_congr ?_
  rw [h.before_control hnames hlimit, List.append_assoc, physicalLines_append (isWhole_asLine _),
    physicalLines_append h.text_whole, transcribeLines_asLine lib _ settings (Grammar.isContent_endLine hm) name _ _ rfl,
    transcribeLine_endLine lib _ htag _ _ rfl, Transcript.andThen_of_none rfl, transcribeLines_append]
  simp only [List.nil_append]

/-- After the directive, and after the text in its place, the two documents are in step, or both are given up. -/
theorem in_step (hm : hasSpace settings.grammar.marker = false) (htag : ("region" : Text) ∈ settings.grammar.tags)
    (hnames : lib.Opens names) (hlimit : names.card ≤ lib.limit)
    (h : Inlinable settings lib name before f path text after w v) {t t' : Transcript}
    (ht : t = transcribeText settings lib name (before ++ (settings.grammar.includeLine f).asLine) w.control)
    (ht' : t' = transcribeText settings lib name
      (before ++ (settings.grammar.endLine.asLine ++ text ++ settings.grammar.beginLine.asLine)) w.control) :
    t.stop.map Stop.kind = t'.stop.map Stop.kind ∧
      (t.stop = none → t.Alike Position.forget t' ∧ t.control = t'.control) := by
  obtain ⟨q, hclosed, hq⟩ := h.text_transcribed hnames hlimit
  obtain ⟨_, hstop⟩ := h.before_transcribed
  have hcode : t.control.includeCode = false := by
    rw [ht]
    exact transcribeText_includeCode hnames hlimit (isWhole_append h.before_whole (isWhole_asLine _)) { text := after }
      h.codeless h.no_code
  have hlib : lib.limit ≠ 0 := by
    have hmem := hnames path _ (Library.read_of_first? h.found)
    have hcard := Finset.card_pos.mpr ⟨_, hmem⟩
    omega
  rw [h.include_transcribed hm hnames hlimit, transcribeSource_text settings lib hlib] at ht
  rw [h.inline_transcribed hm htag hnames hlimit] at ht'
  -- the text of the file, inside it and in the place of the directive
  have hr := hq (transcribeSource settings lib (lib.limit - 1)) path 1 [Path.clean name, Path.clean path]
  have hi := hq (transcribeSource settings lib lib.limit) name (1 + (physicalLines before).length + 1) [Path.clean name]
  have hchain := transcribeLines_chain settings lib (transcribeSource_keepsChain settings lib lib.limit) name
    (1 + (physicalLines before).length + 1) (physicalLines text) ⟨false, false, none, [Path.clean name]⟩
  generalize transcribeLines settings lib (transcribeSource settings lib (lib.limit - 1)) path 1 (physicalLines text)
    ⟨false, false, none, [Path.clean name, Path.clean path]⟩ = r at ht hr
  generalize transcribeLines settings lib (transcribeSource settings lib lib.limit) name
    (1 + (physicalLines before).length + 1) (physicalLines text) ⟨false, false, none, [Path.clean name]⟩ = i
    at ht' hi hchain
  have hri : r.Alike Position.forget i := hr.symm.trans hi
  rw [Transcript.andThen_of_none hstop] at ht ht'
  subst ht ht'
  cases hs : i.stop with
  | some stop =>
    have hr : r.stop.map Stop.kind = some stop.kind := by rw [hri.stop, hs]; rfl
    obtain ⟨stop', hr', _⟩ := Option.map_eq_some_iff.mp hr
    rw [Transcript.andThen_of_stop hs]
    exact ⟨hri.stop, fun hnone => nomatch hr'.symm.trans hnone⟩
  | none =>
    have hqs : q.stop = none := Option.map_eq_none_iff.mp (hi.stop.trans (by rw [hs]; rfl))
    obtain ⟨hregion, hpending⟩ := hclosed hqs
    have hir : i.control.inRegion = false := hi.control.inRegion.symm.trans hregion
    have hip : i.control.pending = none :=
      Option.map_eq_none_iff.mp (hi.control.pending.symm.trans (by rw [hpending]; rfl))
    have hrp : r.control.pending = none :=
      Option.map_eq_none_iff.mp (hri.control.pending.trans (by rw [hip]; rfl))
    have hbegin : ∀ m, transcribeLines settings lib (transcribeSource settings lib lib.limit) name m
        (physicalLines settings.grammar.beginLine.asLine) i.control =
          ⟨⟨true, false, none, [Path.clean name]⟩, [], none⟩ := by
      intro m
      rw [← List.append_nil (physicalLines _), transcribeLines_asLine lib _ settings (Grammar.isContent_beginLine hm)
        name m [] hip, transcribeLine_beginLine lib _ htag _ _ hir, hip, hchain]
      exact Transcript.andThen_done _
    have hcontrol : ({ r.control with chain := [Path.clean name], inRegion := true } : Control) =
        ⟨true, false, none, [Path.clean name]⟩ := by
      have hcode : r.control.includeCode = false := hcode
      dsimp only
      rw [hcode, hrp]
    rw [Transcript.andThen_of_none hs, hbegin]
    have hrs : r.stop.map Stop.kind = none := by rw [hri.stop, hs]; rfl
    refine ⟨hrs, fun _ => ⟨⟨?_, ?_, hrs⟩, hcontrol⟩⟩
    · show Control.Alike _ { r.control with chain := [Path.clean name], inRegion := true } _
      rw [hcontrol]
      exact .refl _ _
    · show List.map _ (_ ++ r.items) = List.map _ (_ ++ (i.items ++ []))
      rw [List.append_nil, List.map_append, List.map_append, hri.items]

end Inlinable

/-- **Including a file is inlining it**, up to positions. -/
theorem parse_inlining {marker : Text} {tags searchPath : List Text} {maxDepth : Int}
    (hmake : Settings.make marker tags searchPath maxDepth = .ok settings) (hnames : lib.Opens names)
    (hlimit : names.card ≤ lib.limit) {before f path text after : Text} {v : Web}
    (h : Inlinable settings lib name before f path text after w v) :
    let included := w.parse settings lib true name { text := settings.grammar.including before f after }
    let inlined := w.parse settings lib true name { text := settings.grammar.inlining before text after }
    included.2.map Stop.kind = inlined.2.map Stop.kind ∧
      (included.2 = none → included.1.web.relocate Position.forget = inlined.1.web.relocate Position.forget) := by
  intro included inlined
  obtain ⟨hm, htag⟩ := Settings.make_grammar hmake
  have hincluded : Transcribes _ w included := parse_append_transcribes settings lib name h.expanded
    (isWhole_append h.before_whole (isWhole_asLine (settings.grammar.includeLine f))) { text := after }
  have hinlined : Transcribes _ w inlined := parse_append_transcribes settings lib name h.expanded
    (isWhole_append h.before_whole (isWhole_append (isWhole_append (isWhole_asLine settings.grammar.endLine) h.text_whole)
      (isWhole_asLine settings.grammar.beginLine))) { text := after }
  obtain ⟨hstop, hstep⟩ := h.in_step hm htag hnames hlimit rfl rfl
  generalize transcribeText settings lib name (before ++ (settings.grammar.includeLine f).asLine) w.control = t
    at hincluded hstop hstep
  generalize transcribeText settings lib name
    (before ++ (settings.grammar.endLine.asLine ++ text ++ settings.grammar.beginLine.asLine)) w.control = t'
    at hinlined hstop hstep
  cases hs : t.stop with
  | some stop =>
    rw [hs] at hstop
    obtain ⟨stop', hs', hkind⟩ := Option.map_eq_some_iff.mp hstop.symm
    rw [Transcript.andThen_of_stop hs] at hincluded
    rw [Transcript.andThen_of_stop hs'] at hinlined
    have hi : included.2 = some stop := hincluded.2.trans hs
    have hi' : inlined.2 = some stop' := hinlined.2.trans hs'
    refine ⟨by rw [hi, hi']; exact congrArg some hkind.symm, fun hnone => nomatch hi.symm.trans hnone⟩
  | none =>
    obtain ⟨halike, hcontrol⟩ := hstep hs
    -- what stands after the directive begins under the same control, and only the numbers of its lines differ
    have hafter : ∀ n m, (transcribeFrom settings lib lib.limit name n { text := after } t.control).Alike Position.forget
        (transcribeFrom settings lib lib.limit name m { text := after } t'.control) := by
      intro n m
      rw [← hcontrol]
      exact (transcribeFrom_unnumbered (transcribeSource_unnumbered settings lib lib.limit) name n m { text := after }
        (.refl _ t.control) rfl).comp Position.forget
    have hall := fun n m => (halike.andThen fun _ => hafter n m).leave
    refine ⟨?_, fun _ => ?_⟩
    · rw [hincluded.2, hinlined.2]
      exact (hall _ _).stop
    · rw [hincluded.1, hinlined.1]
      exact (hall _ _).relocate_apply rfl rfl

end Calls

/-! ## A document and a part of it -/

namespace Desk

variable {settings : Settings} {lib : Library} {p : Desk → Bool} {d e : Desk}

variable (settings lib p) in
/-- Whether something holds of a desk and of all to which it leads, and these are less than `n` steps away. -/
def throughout : (n : Nat) → Desk → Bool
  | 0, _ => false
  | n + 1, d => p d && (step? settings lib d).all (throughout n)

theorem throughout_leads {n : Nat} (h : throughout settings lib p n d = true) (hl : Leads settings lib d e) :
    p e = true := by
  induction n generalizing d with
  | zero => exact nomatch h
  | succ n ih =>
    obtain ⟨hp, hrest⟩ := Bool.and_eq_true_iff.mp h
    rcases hl.cases_head with rfl | ⟨d', hs, hl⟩
    · exact hp
    · rw [hs] at hrest
      exact ih hrest hl

/-- A directive that is not among those of a whole run is never carried out. -/
theorem never_carried_out {n : Nat} {directive : Directive}
    (h : throughout settings lib (fun d => d.directive? settings ≠ some directive) n d = true) (e : Desk)
    (hl : Leads settings lib d e) : e.directive? settings ≠ some directive :=
  of_decide_eq_true (throughout_leads h hl)

end Desk

/-- What stands before the directive of a document. -/
def beforePart : Text := "=begin litweb\n=begin_chunk a\n"

/-- What stands after the directive of the document. -/
def afterPart : Text := "=end_chunk a\n"

/-- The only file that the document includes. -/
def part : Text := "=begin litweb\n=use_chunk b\nx\n=end litweb\n"

theorem inlinable_part :
    Inlinable .standard (.ofList [("part", { text := part })]) "f" beforePart "part" "part" part afterPart .empty
      (Web.empty.parse .standard (.ofList [("part", { text := part })]) true "f" { text := beforePart }).1.web where
  before_whole := by decide
  before_read := ⟨_, Prod.ext rfl (Option.isNone_iff_eq_none.mp (by decide))⟩
  inRegion := by decide
  pending := by decide
  target_ne := by decide
  target_spaceless := by decide
  target_ending := by decide
  found := by rfl
  fresh := by decide
  text_whole := by decide
  text_quiet := Desk.never_carried_out (n := 7) (by decide)
  text_closed _ := by decide
  codeless := rfl
  no_code := Desk.never_carried_out (n := 12) (by decide)

/-- A chunk of the document goes on in the file. -/
theorem parse_inlining_part :
    Inlinable .standard (.ofList [("part", { text := part })]) "f" beforePart "part" "part" part afterPart .empty
      (Web.empty.parse .standard (.ofList [("part", { text := part })]) true "f" { text := beforePart }).1.web ∧
    (Web.empty.parse .standard (.ofList [("part", { text := part })]) true "f"
      { text := Settings.standard.grammar.including beforePart "part" afterPart }).2.isNone ∧
    (Web.empty.parse .standard (.ofList [("part", { text := part })]) true "f"
      { text := Settings.standard.grammar.including beforePart "part" afterPart }).1.web.relocate Position.forget =
    (Web.empty.parse .standard (.ofList [("part", { text := part })]) true "f"
      { text := Settings.standard.grammar.inlining beforePart part afterPart }).1.web.relocate Position.forget := by
  have hmake : Settings.make Settings.defaultMarker [] [] Settings.defaultMaxDepth = .ok .standard := by rfl
  have hgo : (Web.empty.parse .standard (.ofList [("part", { text := part })]) true "f"
      { text := Settings.standard.grammar.including beforePart "part" afterPart }).2.isNone := by decide
  exact ⟨inlinable_part, hgo, (parse_inlining hmake (Library.opens_ofList _) (Library.card_le_ofList _)
    inlinable_part).2 (Option.isNone_iff_eq_none.mp hgo)⟩

end Literate
