import Literate.Proofs.Transcript
import Mathlib.Data.Finset.Card
import Mathlib.Logic.Relation

/-!
# Reading one line after another

Documents that include each other are read like papers on a desk: the topmost is read line by line, a line that
includes a file puts it on top, and a document that has ended, or that was given up, is taken away. `Desk.step?` is one
such step. It knows no bound on the number of documents inside each other, and a desk from which it leads nowhere is
empty.

The main statement is that reading a source is what these steps lead to (`source_leads`), provided that the bound with
which it is read is not smaller than the number of names that can still be opened. So whatever every step keeps holds
at every moment of a call.
-/

namespace Literate

open Text Log

/-! ## Chains -/

namespace Transcriber

/-- Whatever file is transcribed, the chain is left as it was. -/
def KeepsChain (read : Transcriber) : Prop := ∀ path source c, (read path source c).control.chain = c.chain

end Transcriber

namespace Transcript

/-- What both stretches of reading keep, one after the other keeps. -/
theorem andThen_control {P : Control → Prop} {t : Transcript} {next : Control → Transcript} (ht : P t.control)
    (hn : ∀ c, P c → P (next c).control) : P (t.andThen next).control := by
  unfold andThen
  split
  · exact hn _ ht
  · exact ht

end Transcript

section Chains

variable {settings : Settings} {lib : Library} {read : Transcriber}

variable (settings lib) in
/-- An included file leaves the chain and the region as they were, whether or not it can be read. -/
theorem transcribeInclude_control (h : read.KeepsChain) (target : Text) (l : LogicalLine) {c : Control}
    (hc : c.inRegion = true) :
    (transcribeInclude settings lib read target l c).control.chain = c.chain ∧
      (transcribeInclude settings lib read target l c).control.inRegion = true := by
  unfold transcribeInclude
  split
  · exact ⟨rfl, hc⟩
  · split
    · exact ⟨rfl, hc⟩
    · rename_i path source _ _
      have hr := h path source { c with chain := c.chain ++ [Path.clean path], inRegion := false }
      refine ⟨?_, rfl⟩
      show List.dropLast _ = c.chain
      rw [hr, List.dropLast_concat]

variable (settings lib) in
theorem transcribeLine_chain (h : read.KeepsChain) (l : LogicalLine) (c : Control) :
    (transcribeLine settings lib read l c).control.chain = c.chain := by
  unfold transcribeLine
  split
  · rename_i hc
    unfold transcribeInside
    split
    case h_5 args _ =>
      cases fields args with
      | nil => rfl
      | cons target rest => exact (transcribeInclude_control settings lib h target l hc).1
    all_goals rfl
  · unfold transcribeOutside
    split
    · rfl
    · split
      · rfl
      · split <;> rfl

variable (settings lib) in
theorem transcribePhysical_chain (h : read.KeepsChain) (position : Position) (text : Text) (c : Control) :
    (transcribePhysical settings lib read position text c).control.chain = c.chain := by
  unfold transcribePhysical
  split
  · rfl
  · exact transcribeLine_chain settings lib h _ _

variable (settings lib) in
theorem transcribeLines_chain (h : read.KeepsChain) (file : Text) (n : Nat) (texts : List Text) (c : Control) :
    (transcribeLines settings lib read file n texts c).control.chain = c.chain := by
  induction texts generalizing n c with
  | nil => rfl
  | cons text rest ih =>
    exact Transcript.andThen_control (P := fun d => d.chain = c.chain)
      (transcribePhysical_chain settings lib h _ _ _) (fun d hd => (ih (n + 1) d).trans hd)

variable (settings lib) in
/-- However many files are inside each other, afterwards the chain is what it was before. -/
theorem transcribeSource_keepsChain (depth : Nat) : (transcribeSource settings lib depth).KeepsChain := by
  induction depth with
  | zero => exact fun _ _ _ => rfl
  | succ depth ih =>
    intro name source c
    exact Transcript.andThen_control (P := fun d => d.chain = c.chain)
      (transcribeLines_chain settings lib ih name 1 _ c) (fun d hd => hd)

end Chains

/-- The control that is left behind is that of the transcript. -/
theorem Transcribes.control {t : Transcript} {w : Web} {o : Outcome} (h : Transcribes t w o) :
    o.1.web.control = t.control := by
  rw [h.1]
  rfl

/-! ## Desks -/

/-- A document that is being read: its name, the number of its next line, the lines that are left, and why reading
stops after the last of them, if it does. -/
structure Page where
  file : Text
  number : Nat
  rest : List Text
  ending : Option Stop

/-- A document of which nothing was read. -/
def Page.ofSource (name : Text) (source : Source) : Page :=
  ⟨name, 1, physicalLines source.text, source.stop? name⟩

/-- The name by which the chain knows a document. -/
def Page.key (p : Page) : Text := Path.clean p.file

/-- The documents that are being read, the topmost first, and why reading was given up, if it was. -/
structure Desk where
  session : Session
  pages : List Page
  stop : Option Stop := none

/-- The target of the file that a line includes. -/
def includeTarget? (settings : Settings) (inRegion : Bool) (l : LogicalLine) : Option Text :=
  if inRegion then
    match settings.grammar.classify l with
    | some (.includeFile, args) => (fields args).head?
    | _ => none
  else none

namespace Desk

/-- The desk on which a call begins to read a source. -/
def start (name : Text) (source : Source) (w : Web) : Desk where
  session := (Session.mk { w with chain := [Path.clean name] } #[]).log .debug "parse start" [Attr.text "file" name]
  pages := [.ofSource name source]

/-- The logical line that is read next. -/
def line? (d : Desk) : Option LogicalLine :=
  match d.stop, d.pages with
  | none, ⟨file, n, text :: _, _⟩ :: _ => (fold d.session.web.pending ⟨file, n⟩ text).getRight?
  | _, _ => none

/-- The directive that is carried out next. -/
def directive? (settings : Settings) (d : Desk) : Option Directive :=
  if d.session.web.inRegion then (d.line?.bind settings.grammar.classify).map (·.1) else none

/-- Takes away the topmost document. The region of the one below it goes on. -/
def close (s : Session) (below : List Page) (stop : Option Stop) : Desk where
  session := s.modify fun w => { w with chain := w.chain.dropLast, inRegion := w.inRegion || !below.isEmpty }
  pages := below
  stop := stop

section Steps

variable (settings : Settings) (lib : Library)

/-- Puts the file that a line includes on top, unless it cannot be opened or is being read already. -/
def enter (target : Text) (l : LogicalLine) (s : Session) (pages : List Page) : Desk :=
  match s.openFirst lib (candidates settings.searchPath target l.position.file) none with
  | (s, .error cause) => ⟨s, pages, some (.failed (.unreadableInclude l target cause))⟩
  | (s, .ok (path, source)) =>
    let key := Path.clean path
    let chain := s.web.chain
    if chain.contains key then ⟨s, pages, some (.failed (.duplicateInclude l path chain))⟩
    else
      let s := s.log .debug "include" [Attr.text "file" path, Attr.int "depth" chain.length]
      ⟨s.modify fun w => { w with chain := w.chain ++ [key], inRegion := false }, .ofSource path source :: pages, none⟩

/-- A reader for lines that include nothing. -/
def idle : Reader := fun _ _ s => (s, none)

/-- Reads a logical line. -/
def readLine (l : LogicalLine) (s : Session) (pages : List Page) : Desk :=
  match includeTarget? settings s.web.inRegion l with
  | some target =>
    enter settings lib target l (s.log .trace "directive"
      [Attr.text "keyword" Directive.includeFile.label, Attr.text "position" l.position.text]) pages
  | none =>
    let (s, stop) := scanLine settings lib idle l s
    ⟨s, pages, stop⟩

/-- Reads the next physical line of the topmost document, or takes the document away. -/
def step? (d : Desk) : Option Desk :=
  match d.pages, d.stop with
  | [], _ => none
  | _ :: below, some stop => some (close d.session below (some stop))
  | ⟨_, _, [], ending⟩ :: below, none => some (close d.session below ending)
  | ⟨file, n, text :: rest, ending⟩ :: below, none =>
    let pages := ⟨file, n + 1, rest, ending⟩ :: below
    match fold d.session.web.pending ⟨file, n⟩ text with
    | .inl fragment => some ⟨d.session.modify fun w => { w with pending := some fragment }, pages, none⟩
    | .inr l => some (readLine settings lib l (d.session.modify fun w => { w with pending := none }) pages)

/-- One desk becomes another by any number of steps. -/
abbrev Leads : Desk → Desk → Prop := Relation.ReflTransGen fun d e => step? settings lib d = some e

end Steps

end Desk

/-! ## Lines -/

section Lines

variable {settings : Settings} {lib : Library}

/-- A line that includes a file asks for it to be read, and does nothing else. -/
theorem scanLine_of_includes (read : Reader) {l : LogicalLine} {s : Session} {target : Text}
    (h : includeTarget? settings s.web.inRegion l = some target) :
    scanLine settings lib read l s = includeFile settings lib read target l (s.log .trace "directive"
      [Attr.text "keyword" Directive.includeFile.label, Attr.text "position" l.position.text]) := by
  unfold includeTarget? at h
  split at h
  · rename_i hr
    split at h
    · rename_i args hd
      unfold scanLine scanInside
      rw [if_pos hr, hd]
      cases hf : fields args with
      | nil => rw [hf] at h; exact absurd h.symm (Option.some_ne_none target)
      | cons first rest =>
        rw [hf] at h
        obtain rfl := Option.some.inj h
        simp only [obey, hf]
    · exact absurd h.symm (Option.some_ne_none target)
  · exact absurd h.symm (Option.some_ne_none target)

/-- A line that includes nothing does not depend on how files are read. -/
theorem scanLine_of_not_includes (read : Reader) {l : LogicalLine} {s : Session}
    (h : includeTarget? settings s.web.inRegion l = none) :
    scanLine settings lib read l s = scanLine settings lib Desk.idle l s := by
  unfold scanLine
  split
  · rename_i hr
    unfold scanInside
    cases hd : settings.grammar.classify l with
    | none => rfl
    | some d =>
      obtain ⟨d, args⟩ := d
      cases d with
      | includeFile =>
        simp only [includeTarget?, hr, hd, if_true, List.head?_eq_none_iff] at h
        simp only [obey, h]
      | _ => rfl
  · rfl

/-- Reading a file that is included from a document with a chain is what the steps lead to, from the moment at which it
is put on top to the one at which it is taken away. -/
def ReaderLeads (settings : Settings) (lib : Library) (read : Reader) (chain : List Text) : Prop :=
  ∀ path source s page below, lib.read path = .ok source → Path.clean path ∉ chain →
    s.web.chain = chain ++ [Path.clean path] →
    Desk.Leads settings lib ⟨s, .ofSource path source :: page :: below, none⟩
      (Desk.close (read path source s).1 (page :: below) (read path source s).2)

theorem enter_leads {read : Reader} {s : Session} (h : ReaderLeads settings lib read s.web.chain) (target : Text)
    (l : LogicalLine) (page : Page) (below : List Page) :
    Desk.Leads settings lib (Desk.enter settings lib target l s (page :: below))
      ⟨(includeFile settings lib read target l s).1, page :: below, (includeFile settings lib read target l s).2⟩ := by
  obtain ⟨hw, ho⟩ := s.openFirst_eq lib (candidates settings.searchPath target l.position.file) none
  have hread : ∀ {path source}, (s.openFirst lib (candidates settings.searchPath target l.position.file) none).2 =
      .ok (path, source) → lib.read path = .ok source :=
    fun hf => Library.read_of_first? (ho.symm.trans hf)
  unfold includeFile Desk.enter
  generalize s.openFirst lib (candidates settings.searchPath target l.position.file) none = found at hw hread
  obtain ⟨t, cause | ⟨path, source⟩⟩ := found
  · exact .refl
  · simp only at hw
    by_cases hc : t.web.chain.contains (Path.clean path) = true
    · simp only [hc, if_true]
      exact .refl
    · simp only [hc, if_false, Bool.false_eq_true]
      rw [List.contains_iff_mem, hw] at hc
      have hl := h path source ((t.log .debug "include"
        [Attr.text "file" path, Attr.int "depth" t.web.chain.length]).modify
          fun w => { w with chain := w.chain ++ [Path.clean path], inRegion := false }) page below
        (hread rfl) hc (by simp only [Session.modify, Session.log, hw])
      simp only [Desk.close, List.isEmpty_cons, Bool.not_false, Bool.or_true] at hl
      exact hl

theorem readLine_leads {read : Reader} {s : Session} (h : ReaderLeads settings lib read s.web.chain) (l : LogicalLine)
    (page : Page) (below : List Page) :
    Desk.Leads settings lib (Desk.readLine settings lib l s (page :: below))
      ⟨(scanLine settings lib read l s).1, page :: below, (scanLine settings lib read l s).2⟩ := by
  unfold Desk.readLine
  cases ht : includeTarget? settings s.web.inRegion l with
  | some target =>
    rw [scanLine_of_includes read ht]
    exact enter_leads (s := s.log .trace "directive"
      [Attr.text "keyword" Directive.includeFile.label, Attr.text "position" l.position.text]) h target l page below
  | none =>
    rw [scanLine_of_not_includes read ht]

variable (settings lib) in
theorem scanPhysical_chain (depth : Nat) (position : Position) (text : Text) (s : Session) :
    (scanPhysical settings lib (scanSource settings lib depth) position text s).1.web.chain = s.web.chain := by
  have h : Transcribes _ s.web (scanPhysical settings lib (scanSource settings lib depth) position text s) :=
    physical_transcribes (source_transcribes settings lib depth) position text s
  exact (congrArg Control.chain h.control).trans
    (transcribePhysical_chain settings lib (transcribeSource_keepsChain settings lib depth) _ _ _)

theorem physical_leads {read : Reader} {s : Session} (h : ReaderLeads settings lib read s.web.chain) (file : Text)
    (n : Nat) (text : Text) (rest : List Text) (ending : Option Stop) (below : List Page) :
    Desk.Leads settings lib ⟨s, ⟨file, n, text :: rest, ending⟩ :: below, none⟩
      ⟨(scanPhysical settings lib read ⟨file, n⟩ text s).1, ⟨file, n + 1, rest, ending⟩ :: below,
        (scanPhysical settings lib read ⟨file, n⟩ text s).2⟩ := by
  unfold scanPhysical
  cases hf : fold s.web.pending ⟨file, n⟩ text with
  | inl fragment => exact .single (by simp only [Desk.step?, hf])
  | inr l =>
    exact .head (by simp only [Desk.step?, hf])
      (readLine_leads (s := s.modify fun w => { w with pending := none }) h l ⟨file, n + 1, rest, ending⟩ below)

/-! ## Sources -/

/-- The lines of a document up to those that are left, unless reading is given up before. -/
theorem lines_leads {depth : Nat} {s : Session} (h : ReaderLeads settings lib (scanSource settings lib depth) s.web.chain)
    (file : Text) (n : Nat) (texts more : List Text) (ending : Option Stop) (below : List Page) :
    ∃ page : Page, page.ending = ending ∧
      ((scanLines settings lib (scanSource settings lib depth) file n texts s).2 = none → page.rest = more) ∧
      Desk.Leads settings lib ⟨s, ⟨file, n, texts ++ more, ending⟩ :: below, none⟩
        ⟨(scanLines settings lib (scanSource settings lib depth) file n texts s).1, page :: below,
          (scanLines settings lib (scanSource settings lib depth) file n texts s).2⟩ := by
  induction texts generalizing n s with
  | nil => exact ⟨⟨file, n, more, ending⟩, rfl, fun _ => rfl, .refl⟩
  | cons text rest ih =>
    have hp := physical_leads h file n text (rest ++ more) ending below
    have hc := scanPhysical_chain settings lib depth ⟨file, n⟩ text s
    unfold scanLines
    generalize scanPhysical settings lib (scanSource settings lib depth) ⟨file, n⟩ text s = o at hp hc
    obtain ⟨t, _ | stop⟩ := o
    · have ht : t.web.chain = s.web.chain := hc
      obtain ⟨page, he, hr, hl⟩ := ih (s := t) (by rw [ht]; exact h) (n + 1)
      exact ⟨page, he, hr, hp.trans hl⟩
    · exact ⟨⟨file, n + 1, rest ++ more, ending⟩, rfl, fun hs => absurd hs (Option.some_ne_none stop), hp⟩

end Lines

/-- The cleaned names under which documents can be opened are among these. -/
def Library.Opens (lib : Library) (names : Finset Text) : Prop :=
  ∀ path source, lib.read path = .ok source → Path.clean path ∈ names

/-- The files of a chain are different, and all but the outermost were opened under one of these names. -/
structure Chained (names : Finset Text) (chain : List Text) : Prop where
  nodup : chain.Nodup
  opened : ∀ key ∈ chain.tail, key ∈ names

namespace Chained

variable {names : Finset Text} {chain : List Text}

theorem singleton (key : Text) : Chained names [key] :=
  ⟨List.nodup_singleton key, fun _ h => absurd h List.not_mem_nil⟩

/-- One more file inside the others. -/
theorem snoc (h : Chained names chain) (hne : chain ≠ []) {key : Text} (hk : key ∈ names) (hn : key ∉ chain) :
    Chained names (chain ++ [key]) where
  nodup := List.nodup_append.mpr ⟨h.nodup, List.nodup_singleton key, fun a ha b hb => by
    rw [List.mem_singleton] at hb
    rintro rfl
    exact hn (hb ▸ ha)⟩
  opened a ha := by
    rw [List.tail_append_of_ne_nil hne, List.mem_append, List.mem_singleton] at ha
    rcases ha with ha | rfl
    · exact h.opened a ha
    · exact hk

theorem length_le (h : Chained names chain) : chain.length ≤ names.card + 1 := by
  have hsub : chain.tail.toFinset ⊆ names := fun a ha => h.opened a (List.mem_toFinset.mp ha)
  have hcard := Finset.card_le_card hsub
  rw [List.toFinset_card_of_nodup h.nodup.tail, List.length_tail] at hcard
  omega

end Chained

/-- **Reading a source is what the steps lead to**, if the bound on the files inside each other is not smaller than
the number of names that can still be opened. -/
theorem source_leads (settings : Settings) {lib : Library} {names : Finset Text} (hnames : lib.Opens names)
    (depth : Nat) (name : Text) (source : Source) {s : Session} (hc : Chained names s.web.chain)
    (hne : s.web.chain ≠ []) (hd : names.card + 2 ≤ s.web.chain.length + depth) (below : List Page) :
    Desk.Leads settings lib ⟨s, .ofSource name source :: below, none⟩
      (Desk.close (scanSource settings lib depth name source s).1 below
        (scanSource settings lib depth name source s).2) := by
  induction depth generalizing name source s below with
  | zero =>
    have hl := hc.length_le
    omega
  | succ depth ih =>
    have hread : ReaderLeads settings lib (scanSource settings lib depth) s.web.chain := by
      intro path source t page below hr hn ht
      refine ih path source (s := t) (ht ▸ hc.snoc hne (hnames path source hr) hn) (by simp [ht]) ?_ (page :: below)
      rw [ht, List.length_append, List.length_singleton]
      omega
    obtain ⟨⟨file, n, rest, ending⟩, he, hrest, hl⟩ :=
      lines_leads hread name 1 (physicalLines source.text) [] (source.stop? name) below
    rw [List.append_nil] at hl
    unfold scanSource
    generalize scanLines settings lib (scanSource settings lib depth) name 1 (physicalLines source.text) s = o
      at hrest hl
    obtain ⟨t, _ | stop⟩ := o
    · obtain rfl : rest = [] := hrest rfl
      obtain rfl : ending = source.stop? name := he
      exact hl.tail rfl
    · exact hl.tail rfl

end Literate
