import Literate.Proofs.Desk
import Literate.Proofs.Invariant

/-!
# Included files

A document is read by steps that each take one line (`Desk.step?`). At every moment the chain of a call lists the
documents on the desk by their cleaned names, the outermost first, and these are different (`Desk.Orderly`, kept by one
step in `Orderly.step`). All but the outermost were opened by the library; so if it opens documents under finitely many
cleaned names, there are never more than these and one inside each other.

The main statement is `parse_inclusion`: the steps come to an end, and what they lead to is what the call leaves
behind; a file is never read inside itself; an inclusion leaves the chain and the region as they were; and after the
call the chain is empty.
-/

namespace Literate

open Text Log

/-! ## What a step does -/

namespace Desk

variable {settings : Settings} {lib : Library} {d e : Desk}

/-- A step either takes away the topmost document, or takes one line of it. -/
theorem step?_cases (h : step? settings lib d = some e) :
    (∃ page below stop, d.pages = page :: below ∧ e = close d.session below stop ∧
      (d.stop = none ∧ page.rest = [] ∧ stop = page.ending ∨ d.stop = stop)) ∨
    ∃ file n text rest ending below, d.pages = ⟨file, n, text :: rest, ending⟩ :: below ∧ d.stop = none ∧
      ((∃ fragment, fold d.session.web.pending ⟨file, n⟩ text = .inl fragment ∧
        e = ⟨d.session.modify fun w => { w with pending := some fragment }, ⟨file, n + 1, rest, ending⟩ :: below, none⟩) ∨
      ∃ l, fold d.session.web.pending ⟨file, n⟩ text = .inr l ∧ d.line? = some l ∧
        e = readLine settings lib l (d.session.modify fun w => { w with pending := none })
          (⟨file, n + 1, rest, ending⟩ :: below)) := by
  obtain ⟨s, pages, stop⟩ := d
  rcases pages with _ | ⟨⟨file, n, _ | ⟨text, rest⟩, ending⟩, below⟩
  · exact nomatch h
  · cases stop with
    | none => exact Or.inl ⟨_, _, ending, rfl, (Option.some.inj h).symm, Or.inl ⟨rfl, rfl, rfl⟩⟩
    | some stop => exact Or.inl ⟨_, _, some stop, rfl, (Option.some.inj h).symm, Or.inr rfl⟩
  · cases stop with
    | some stop => exact Or.inl ⟨_, _, some stop, rfl, (Option.some.inj h).symm, Or.inr rfl⟩
    | none =>
      refine Or.inr ⟨file, n, text, rest, ending, below, rfl, rfl, ?_⟩
      simp only [step?] at h
      cases hf : fold s.web.pending ⟨file, n⟩ text with
      | inl fragment =>
        rw [hf] at h
        exact Or.inl ⟨fragment, rfl, (Option.some.inj h).symm⟩
      | inr l =>
        rw [hf] at h
        exact Or.inr ⟨l, rfl, by simp only [line?, hf, Sum.getRight?_inr], (Option.some.inj h).symm⟩

variable (settings lib) in
/-- A line that includes a file either stops the call, and then leaves web and documents alone, or puts the file on
top. -/
theorem enter_cases (target : Text) (l : LogicalLine) (s : Session) (pages : List Page) :
    (∃ stop, (enter settings lib target l s pages).stop = some stop ∧ stop ≠ .crashed ∧
      (enter settings lib target l s pages).pages = pages ∧ (enter settings lib target l s pages).session.web = s.web) ∨
    ∃ path source, lib.read path = .ok source ∧ Path.clean path ∉ s.web.chain ∧
      (enter settings lib target l s pages).stop = none ∧
      (enter settings lib target l s pages).pages = .ofSource path source :: pages ∧
      (enter settings lib target l s pages).session.web =
        { s.web with chain := s.web.chain ++ [Path.clean path], inRegion := false } := by
  obtain ⟨hw, ho⟩ := s.openFirst_eq lib (candidates settings.searchPath target l.position.file) none
  have hread : ∀ {path source}, (s.openFirst lib (candidates settings.searchPath target l.position.file) none).2 =
      .ok (path, source) → lib.read path = .ok source :=
    fun hf => Library.read_of_first? (ho.symm.trans hf)
  unfold enter
  generalize s.openFirst lib (candidates settings.searchPath target l.position.file) none = found at hw hread
  obtain ⟨⟨web, events⟩, cause | ⟨path, source⟩⟩ := found
  · exact Or.inl ⟨_, rfl, (fun h => nomatch h), rfl, hw⟩
  · obtain rfl : web = s.web := hw
    by_cases hc : s.web.chain.contains (Path.clean path) = true
    · dsimp only
      rw [if_pos hc]
      exact Or.inl ⟨_, rfl, (fun h => nomatch h), rfl, rfl⟩
    · dsimp only
      rw [if_neg hc]
      exact Or.inr ⟨path, source, hread rfl, fun hm => hc (List.contains_iff_mem.mpr hm), rfl, rfl, rfl⟩

/-- A transcriber for lines that include nothing. -/
def idleTranscriber : Transcriber := fun _ _ c => ⟨c, [], none⟩

theorem idle_transcribed : ReaderTranscribed idleTranscriber idle := fun _ _ _ => ⟨rfl, rfl⟩

variable (settings lib) in
/-- The control that a line leaves behind that includes nothing. -/
theorem scanLine_idle_control (l : LogicalLine) (s : Session) :
    (scanLine settings lib idle l s).1.web.control =
      (transcribeLine settings lib idleTranscriber l s.web.control).control :=
  (line_transcribes idle_transcribed l s).control

/-! ## The documents on the desk -/

/-- The chain lists the documents on the desk, the outermost first; they are different, and were opened under one of
these names if they were included. -/
structure Orderly (names : Finset Text) (d : Desk) : Prop where
  chain : d.session.web.chain = (d.pages.map Page.key).reverse
  chained : Chained names d.session.web.chain

namespace Orderly

variable {names : Finset Text}

theorem start (name : Text) (source : Source) (w : Web) : Orderly names (.start name source w) where
  chain := rfl
  chained := .singleton (Path.clean name)

/-- Neither the name of a document nor the chain looks at the lines that are left. -/
theorem turn (h : Orderly names d) {file : Text} {n m : Nat} {rest more : List Text} {ending : Option Stop}
    {below : List Page} (hp : d.pages = ⟨file, n, more, ending⟩ :: below) {s : Session} {stop : Option Stop}
    (hs : s.web.chain = d.session.web.chain) :
    Orderly names ⟨s, ⟨file, m, rest, ending⟩ :: below, stop⟩ where
  chain := by
    rw [hs, h.chain, hp]
    rfl
  chained := by
    show Chained names s.web.chain
    rw [hs]
    exact h.chained

theorem close (h : Orderly names d) {page : Page} {below : List Page} (hp : d.pages = page :: below)
    (stop : Option Stop) : Orderly names (Desk.close d.session below stop) := by
  have hc : d.session.web.chain.dropLast = (below.map Page.key).reverse := by
    rw [h.chain, hp, List.map_cons, List.reverse_cons, List.dropLast_concat]
  refine ⟨hc, ⟨h.chained.nodup.sublist (List.dropLast_sublist _), fun key hk => h.chained.opened key ?_⟩⟩
  have hk : key ∈ d.session.web.chain.dropLast.tail := hk
  rw [List.tail_dropLast] at hk
  exact List.mem_of_mem_dropLast hk

theorem enter (hnames : lib.Opens names) (h : Orderly names d) (hp : d.pages ≠ []) (target : Text) (l : LogicalLine) :
    Orderly names (Desk.enter settings lib target l d.session d.pages) := by
  rcases enter_cases settings lib target l d.session d.pages with
    ⟨stop, _, _, he, hw⟩ | ⟨path, source, hr, hn, _, he, hw⟩
  · refine ⟨?_, ?_⟩
    · rw [hw, he]; exact h.chain
    · rw [hw]; exact h.chained
  · have hne : d.session.web.chain ≠ [] := by simp [h.chain, hp]
    refine ⟨?_, ?_⟩
    · rw [hw, he, List.map_cons, List.reverse_cons, ← h.chain]
      rfl
    · rw [hw]
      exact h.chained.snoc hne (hnames path source hr) hn

/-- Every step keeps the documents on the desk in order. -/
theorem step (hnames : lib.Opens names) (h : Orderly names d) (hs : step? settings lib d = some e) :
    Orderly names e := by
  rcases step?_cases hs with ⟨page, below, stop, hp, rfl, _⟩ |
    ⟨file, n, text, rest, ending, below, hp, _, ⟨fragment, _, rfl⟩ | ⟨l, _, _, rfl⟩⟩
  · exact h.close hp stop
  · exact h.turn hp rfl
  · unfold readLine
    split
    · refine enter hnames (d := ⟨Session.log _ .trace _ _, ⟨file, n + 1, rest, ending⟩ :: below, none⟩) ?_
        (List.cons_ne_nil _ _) _ l
      exact h.turn hp rfl
    · refine h.turn hp ?_
      have hc := scanLine_idle_control settings lib l (d.session.modify fun w => { w with pending := none })
      exact (congrArg Control.chain hc).trans (transcribeLine_chain settings lib (fun _ _ _ => rfl) l _)

/-- Every desk that steps lead to is in order. -/
theorem leads (hnames : lib.Opens names) (h : Orderly names d) (hl : Leads settings lib d e) : Orderly names e := by
  induction hl with
  | refl => exact h
  | tail _ hs ih => exact ih.step hnames hs

end Orderly

/-! ## Why reading stops -/

variable (settings lib) in
theorem transcribeLine_idle_stop (l : LogicalLine) (c : Control) :
    (transcribeLine settings lib idleTranscriber l c).stop ≠ some .crashed := by
  unfold transcribeLine
  split
  · unfold transcribeInside
    split
    case h_5 args _ =>
      cases fields args with
      | nil => exact fun h => nomatch h
      | cons target rest =>
        simp only [transcribeInclude]
        split
        · exact fun h => nomatch h
        · split <;> exact fun h => nomatch h
    all_goals exact fun h => nomatch h
  · unfold transcribeOutside
    split
    · exact fun h => nomatch h
    · split
      · exact fun h => nomatch h
      · split <;> exact fun h => nomatch h

/-- Neither was reading given up without a reason, nor will it be at the end of a document. -/
structure Explained (d : Desk) : Prop where
  stop : d.stop ≠ some .crashed
  ending : ∀ page ∈ d.pages, page.ending ≠ some .crashed

theorem Page.ofSource_ending (name : Text) (source : Source) : (Page.ofSource name source).ending ≠ some .crashed := by
  show source.stop? name ≠ some .crashed
  unfold Source.stop?
  split
  · exact fun h => nomatch h
  · cases source.readError <;> exact fun h => nomatch h

namespace Explained

theorem start (name : Text) (source : Source) (w : Web) : Explained (.start name source w) where
  stop h := nomatch h
  ending page hp := by
    obtain rfl := List.mem_singleton.mp hp
    exact Page.ofSource_ending name source

theorem step (h : Explained d) (hs : step? settings lib d = some e) : Explained e := by
  rcases step?_cases hs with ⟨page, below, stop, hp, rfl, hstop⟩ |
    ⟨file, n, text, rest, ending, below, hp, _, hl⟩
  · refine ⟨?_, fun p hm => h.ending p (by rw [hp]; exact List.mem_cons_of_mem _ hm)⟩
    show stop ≠ some .crashed
    rcases hstop with ⟨_, _, rfl⟩ | rfl
    · exact h.ending page (by rw [hp]; exact List.mem_cons_self)
    · exact h.stop
  · have hpages : ∀ page ∈ (⟨file, n + 1, rest, ending⟩ : Page) :: below, page.ending ≠ some .crashed := by
      intro page hm
      rcases List.mem_cons.mp hm with rfl | hm
      · exact h.ending ⟨file, n, text :: rest, ending⟩ (by rw [hp]; exact List.mem_cons_self)
      · exact h.ending page (by rw [hp]; exact List.mem_cons_of_mem _ hm)
    rcases hl with ⟨fragment, _, rfl⟩ | ⟨l, _, _, rfl⟩
    · exact ⟨fun h => (nomatch h), hpages⟩
    · unfold readLine
      split
      · rename_i target _
        rcases enter_cases settings lib target l _ _ with ⟨stop, hstop, hne, he, _⟩ | ⟨path, source, _, _, hstop, he, _⟩
        · exact ⟨by rw [hstop]; exact fun h => hne (Option.some.inj h), by rw [he]; exact hpages⟩
        · refine ⟨by rw [hstop]; exact (fun h => nomatch h), ?_⟩
          rw [he]
          intro page hm
          rcases List.mem_cons.mp hm with rfl | hm
          · exact Page.ofSource_ending path source
          · exact hpages page hm
      · refine ⟨?_, hpages⟩
        have ht : Transcribes _ _ (scanLine settings lib idle l (d.session.modify fun w => { w with pending := none })) :=
          line_transcribes idle_transcribed l _
        show (scanLine settings lib idle l (d.session.modify fun w => { w with pending := none })).2 ≠ some .crashed
        rw [ht.2]
        exact transcribeLine_idle_stop settings lib l _

theorem leads (h : Explained d) (hl : Leads settings lib d e) : Explained e := by
  induction hl with
  | refl => exact h
  | tail _ hs ih => exact ih.step hs

end Explained

/-! ## The end of a call -/

/-- Two desks from which no step leads on, and to which steps lead from the same one, are the same. -/
theorem final_unique {f : Desk} (he : Leads settings lib d e) (hf : Leads settings lib d f)
    (hee : step? settings lib e = none) (hff : step? settings lib f = none) : e = f := by
  have hu : Relator.RightUnique fun d e => step? settings lib d = some e :=
    fun _ _ _ h h' => Option.some.inj (h.symm.trans h')
  rcases Relation.ReflTransGen.total_of_right_unique hu he hf with h | h
  · rcases h.cases_head with rfl | ⟨_, hs, _⟩
    · rfl
    · exact nomatch hee.symm.trans hs
  · rcases h.cases_head with rfl | ⟨_, hs, _⟩
    · rfl
    · exact nomatch hff.symm.trans hs

variable (settings lib) in
/-- Once reading was given up, all documents are taken away. -/
theorem stopped_leads (s : Session) (pages : List Page) (stop : Stop) :
    ∃ t, Leads settings lib ⟨s, pages, some stop⟩ ⟨t, [], some stop⟩ := by
  induction pages generalizing s with
  | nil => exact ⟨s, .refl⟩
  | cons page below ih =>
    obtain ⟨t, ht⟩ := ih (close s below (some stop)).session
    exact ⟨t, .head (b := close s below (some stop)) rfl ht⟩

end Desk

/-- A call that was not cancelled before reads its source, and then forgets the chain. -/
theorem Web.parse_live (settings : Settings) (lib : Library) (name : Text) (source : Source) {w : Web}
    (hw : w.expanded = false) :
    (w.parse settings lib true name source).1.web =
      { (scanSource settings lib (lib.limit + 1) name source (Desk.start name source w).session).1.web with
        chain := [] } ∧
    (w.parse settings lib true name source).2 =
      (scanSource settings lib (lib.limit + 1) name source (Desk.start name source w).session).2 := by
  unfold Web.parse Desk.start
  rw [if_neg (by simp [hw])]
  rcases ho : scanSource settings lib (lib.limit + 1) name source
    ((Session.mk { w with chain := [Path.clean name] } #[]).log .debug "parse start" [Attr.text "file" name]) with
    ⟨s, _ | stop⟩
  · refine ⟨?_, by simp only [if_true, ho]⟩
    simp only [if_true, ho]
    rfl
  · refine ⟨?_, by simp only [if_true, ho]⟩
    simp only [if_true, ho]
    rfl

/-- **What the steps lead to is what the call leaves behind.** -/
theorem parse_leads (settings : Settings) {lib : Library} {names : Finset Text} (hnames : lib.Opens names)
    (hlimit : names.card ≤ lib.limit) (name : Text) (source : Source) {w : Web} (hw : w.expanded = false) :
    ∃ s : Session, s.web = (w.parse settings lib true name source).1.web ∧
      Desk.Leads settings lib (.start name source w) ⟨s, [], (w.parse settings lib true name source).2⟩ := by
  obtain ⟨hweb, hstop⟩ := Web.parse_live settings lib name source hw
  have hl := source_leads settings hnames (lib.limit + 1) name source
    (s := (Desk.start name source w).session) (.singleton (Path.clean name)) (List.cons_ne_nil _ _)
    (by show _ ≤ 1 + (lib.limit + 1); omega) []
  have hc := congrArg Control.chain
    (source_transcribes settings lib (lib.limit + 1) name source (Desk.start name source w).session).control
  rw [transcribeSource_keepsChain settings lib (lib.limit + 1) name source] at hc
  generalize scanSource settings lib (lib.limit + 1) name source (Desk.start name source w).session = o
    at hweb hstop hl hc
  have hchain : o.1.web.chain = [Path.clean name] := hc
  refine ⟨(Desk.close o.1 [] o.2).session, ?_, ?_⟩
  · rw [hweb]
    simp [Desk.close, Session.modify, hchain]
  · rw [hstop]
    exact hl

namespace Desk

variable {settings : Settings} {lib : Library} {d : Desk}

/-- A file that is being read is not read again: the line that includes it stops the call, and does nothing else. -/
theorem step?_duplicate {l : LogicalLine} {target path : Text} {source : Source} (hl : d.line? = some l)
    (ht : includeTarget? settings d.session.web.inRegion l = some target)
    (hf : lib.first? (candidates settings.searchPath target l.position.file) none = .ok (path, source))
    (hc : Path.clean path ∈ d.session.web.chain) :
    ∃ e, step? settings lib d = some e ∧
      e.stop = some (.failed (.duplicateInclude l path d.session.web.chain)) ∧
      e.pages.map Page.key = d.pages.map Page.key ∧ e.session.web = { d.session.web with pending := none } := by
  obtain ⟨s, pages, stop⟩ := d
  unfold line? at hl
  split at hl
  · rename_i file n text rest ending below hstop hp
    obtain rfl : stop = none := hstop
    obtain rfl : pages = ⟨file, n, text :: rest, ending⟩ :: below := hp
    have hfold := Sum.getRight?_eq_some_iff.mp hl
    refine ⟨readLine settings lib l (s.modify fun w => { w with pending := none })
      (⟨file, n + 1, rest, ending⟩ :: below), by simp only [step?, hfold], ?_⟩
    unfold readLine
    rw [show includeTarget? settings (s.modify fun w => { w with pending := none }).web.inRegion l = some target from ht]
    -- the file is asked for under the paths at which it may be, and found at one of those being read
    generalize hs : Session.log (s.modify fun w => { w with pending := none }) .trace "directive"
      [Attr.text "keyword" Directive.includeFile.label, Attr.text "position" l.position.text] = t
    have hweb : t.web = { s.web with pending := none } := by rw [← hs]; rfl
    obtain ⟨hw, ho⟩ := t.openFirst_eq lib (candidates settings.searchPath target l.position.file) none
    rw [hf] at ho
    dsimp only
    unfold enter
    generalize t.openFirst lib (candidates settings.searchPath target l.position.file) none = found at hw ho
    obtain ⟨u, found⟩ := found
    obtain rfl : found = .ok (path, source) := ho
    have hu : u.web = { s.web with pending := none } := hw.trans hweb
    have hchain : u.web.chain = s.web.chain := by rw [hu]
    have hcon : u.web.chain.contains (Path.clean path) = true := by rw [hchain]; exact List.contains_iff_mem.mpr hc
    dsimp only
    rw [if_pos hcon]
    exact ⟨by rw [hchain], rfl, hu⟩
  · exact absurd hl.symm (Option.some_ne_none l)

end Desk

/-! ## Libraries of documents -/

/-- What the library of a list reads is in the list. -/
theorem Library.mem_of_read_ofList {documents : List (Text × Source)} {path : Text} {source : Source}
    (h : (ofList documents).read path = .ok source) : (path, source) ∈ documents := by
  simp only [ofList] at h
  cases hl : documents.lookup path with
  | none =>
    rw [hl] at h
    exact nomatch h
  | some found =>
    rw [hl] at h
    obtain rfl := Except.ok.inj h
    obtain ⟨before, after, hd, _⟩ := List.lookup_eq_some_iff.mp hl
    rw [hd]
    exact List.mem_append_right _ List.mem_cons_self

/-- The library of a list opens no other names than those of the list. -/
theorem Library.opens_ofList (documents : List (Text × Source)) :
    (ofList documents).Opens (documents.map (Path.clean ·.1)).toFinset := by
  intro path source h
  rw [List.mem_toFinset, List.mem_map]
  exact ⟨(path, source), mem_of_read_ofList h, rfl⟩

/-- The bound of the library of a list is not smaller than the number of its names. -/
theorem Library.card_le_ofList (documents : List (Text × Source)) :
    (documents.map (Path.clean ·.1)).toFinset.card ≤ (ofList documents).limit :=
  (List.toFinset_card_le _).trans_eq (List.length_map _)

/-! ## Chains between calls -/

/-- After a reading call the chain is empty if it was before. -/
theorem Reading.transcribe_chain (settings : Settings) (r : Reading) {c : Control} (hc : c.chain = []) :
    (r.transcribe settings c).control.chain = [] := by
  cases r with
  | parse lib live name source => rfl
  | parseFile lib live name =>
    simp only [transcribe]
    split
    · exact hc
    · rfl
  | request r => exact hc

namespace Web

variable (settings : Settings) {w : Web}

/-- A call that reads a source leaves no chain behind; on an expanded web it does nothing. -/
theorem parse_chain (lib : Library) (live : Bool) (name : Text) (source : Source) (w : Web) :
    (w.parse settings lib live name source).1.web.chain = if w.expanded then w.chain else [] := by
  cases hx : w.expanded with
  | true =>
    rw [if_pos rfl]
    unfold parse
    rw [if_pos hx]
  | false =>
    rw [if_neg Bool.false_ne_true]
    exact congrArg Control.chain (parse_transcribes settings lib live name source hx).control

theorem perform_chain (h : w.Sound) (hc : w.chain = []) (c : Call) : (c.perform settings w).chain = [] := by
  cases c with
  | read r =>
    cases hx : w.expanded with
    | false =>
      show (r.perform settings w).chain = []
      rw [Reading.perform_eq settings r hx]
      exact r.transcribe_chain settings hc
    | true =>
      rcases perform_of_expanded settings hx r with hr | ⟨q, hr⟩
      · exact (congrArg Web.chain hr).trans hc
      · exact (congrArg Web.chain hr).trans hc
  | expandAll patience =>
    show (w.expandAll settings patience).1.web.chain = []
    cases hx : w.expanded with
    | true =>
      rw [expandAll_of_expanded settings patience hx]
      exact hc
    | false =>
      rw [(expandAll_spec settings patience hx h.guard).frame]
      exact hc
  | render ref => exact hc

/-- Between calls no file is being read. -/
theorem run_chain (calls : List Call) : (run settings calls .empty).chain = [] :=
  (run_induction settings (P := fun w => w.Sound ∧ w.chain = [])
    (fun _ c h => ⟨h.1.perform settings c, perform_chain settings h.1 h.2 c⟩) calls ⟨sound_empty, rfl⟩).2

end Web

/-- **Inclusion ends, and no file is read inside itself.** -/
theorem parse_inclusion (settings : Settings) (lib : Library) (names : Finset Text) (hnames : lib.Opens names)
    (hlimit : names.card ≤ lib.limit) (name : Text) (source : Source) (w : Web) :
    let call := w.parse settings lib true name source
    (w.expanded = false → call.2 ≠ some .crashed ∧
      (∃ d, Desk.Leads settings lib (.start name source w) d ∧ d.pages = [] ∧ d.session.web = call.1.web ∧
        d.stop = call.2) ∧
      ∀ d, Desk.Leads settings lib (.start name source w) d →
        d.session.web.chain = (d.pages.map Page.key).reverse ∧ d.session.web.chain.Nodup ∧
        d.session.web.chain.length ≤ 1 + names.card ∧
        ∀ l target path included, d.line? = some l → includeTarget? settings d.session.web.inRegion l = some target →
          lib.first? (candidates settings.searchPath target l.position.file) none = .ok (path, included) →
          Path.clean path ∈ d.session.web.chain →
          call.2 = some (.failed (.duplicateInclude l path d.session.web.chain)) ∧
          ∃ e, d.step? settings lib = some e ∧ e.stop = call.2 ∧ e.pages.map Page.key = d.pages.map Page.key ∧
            e.session.web = { d.session.web with pending := none }) ∧
    (∀ depth target l s, s.web.inRegion = true →
      (includeFile settings lib (scanSource settings lib depth) target l s).1.web.chain = s.web.chain ∧
      (includeFile settings lib (scanSource settings lib depth) target l s).1.web.inRegion = true) ∧
    (∀ live, (w.parse settings lib live name source).1.web.chain = if w.expanded then w.chain else []) ∧
    ∀ calls, (Web.run settings calls .empty).chain = [] := by
  intro call
  refine ⟨fun hw => ?_, fun depth target l s hs => ?_, fun live => ?_, Web.run_chain settings⟩
  · obtain ⟨t, ht, hl⟩ := parse_leads settings hnames hlimit name source hw
    refine ⟨((Desk.Explained.start name source w).leads hl).stop, ⟨_, hl, rfl, ht, rfl⟩, fun d hd => ?_⟩
    have ho := Desk.Orderly.leads hnames (.start name source w) hd
    refine ⟨ho.chain, ho.chained.nodup, by have := ho.chained.length_le; omega, ?_⟩
    intro l target path included hline htarget hfirst hmem
    obtain ⟨⟨s, pages, stop⟩, hstep, hstop, hpages, hweb⟩ := Desk.step?_duplicate hline htarget hfirst hmem
    obtain rfl : stop = _ := hstop
    -- from there on all documents are taken away, and this is the end of the call
    obtain ⟨u, hu⟩ := Desk.stopped_leads settings lib s pages
      (.failed (.duplicateInclude l path d.session.web.chain))
    have hend := congrArg Desk.stop (Desk.final_unique hl ((hd.tail hstep).trans hu) rfl rfl)
    exact ⟨hend, _, hstep, hend.symm, hpages, hweb⟩
  · have hi : Transcribes _ s.web (includeFile settings lib (scanSource settings lib depth) target l s) :=
      include_transcribes (source_transcribes settings lib depth) target l s
    have hc := transcribeInclude_control settings lib (c := s.web.control)
      (transcribeSource_keepsChain settings lib depth) target l hs
    exact ⟨(congrArg Control.chain hi.control).trans hc.1, (congrArg Control.inRegion hi.control).trans hc.2⟩
  · exact Web.parse_chain settings lib live name source w

/-- Two files that include each other, one of them under another spelling. -/
def crossing : List (Text × Source) :=
  [("a", { text := "=begin litweb\n=include b\n" }), ("b", { text := "=begin litweb\n=include ./a\n" }),
   ("./a", { text := "x\n" })]

/-- The third file would be read inside itself. -/
theorem parse_inclusion_crossing :
    (Library.ofList crossing).Opens (crossing.map (Path.clean ·.1)).toFinset ∧
    (crossing.map (Path.clean ·.1)).toFinset.card ≤ (Library.ofList crossing).limit ∧
    (∃ d, Desk.Leads .standard (.ofList crossing) (.start "a" { text := "=begin litweb\n=include b\n" } .empty) d ∧
      d.pages = [] ∧ d.stop = (Web.empty.parse .standard (.ofList crossing) true "a"
        { text := "=begin litweb\n=include b\n" }).2) ∧
    (Web.empty.parse .standard (.ofList crossing) true "a" { text := "=begin litweb\n=include b\n" }).2.any
      (fun | .failed f => f.hasFault .duplicateInclude | _ => false) := by
  have hopens := Library.opens_ofList crossing
  have hcard := Library.card_le_ofList crossing
  obtain ⟨hreads, _⟩ := parse_inclusion .standard (.ofList crossing) _ hopens hcard "a"
    { text := "=begin litweb\n=include b\n" } .empty
  obtain ⟨_, ⟨d, hl, hp, _, hs⟩, _⟩ := hreads rfl
  exact ⟨hopens, hcard, ⟨d, hl, hp, hs⟩, by decide⟩

end Literate
