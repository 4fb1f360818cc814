import Literate.Proofs.Call

/-!
# What a document says, apart from what it does

Which line is read in which way is decided by four things only: whether a region is open, whether code is to be
included, the fragment that waits for its continuation, and the files being read (`Control`). So reading a document
can be described without the web into which it is read: by its *transcript*, which lists what was accepted, opened,
closed and requested, in the order of processing and with included files in their places (`transcribeSource`,
`Reading.transcribe`).

The main statement is that reading into a web is replaying the transcript in it (`parse_transcribes`,
`parseFile_transcribes`): the four things and the reason to stop are those of the transcript, and everything else is
what its items make of the web, one after another.
-/

namespace Literate

open Text Log

/-! ## Items -/

/-- One thing that a document does to a web. -/
inductive Item where
  /-- A line is accepted. -/
  | literal (text : Text)
  /-- A use is accepted. -/
  | use (u : Use)
  /-- A directive begins groups. -/
  | opened (kind : Kind) (names : List Text)
  /-- A directive ends groups. -/
  | closed (kind : Kind) (names : List Text)
  /-- A request is made. -/
  | requested (r : Request)

/-- What an item does to a web. -/
def Item.enact (w : Web) : Item → Web
  | literal text => w.accept text
  | use u => w.push (.use u)
  | opened k names => w.openNames k names
  | closed k names => w.closeNames k names
  | requested r => w.request r

/-- What items do to a web, one after another. -/
def Web.replay (w : Web) (items : List Item) : Web := items.foldl Item.enact w

/-! ## Control -/

/-- What decides how the next line is read. -/
structure Control where
  inRegion : Bool := false
  includeCode : Bool := false
  pending : Option Fragment := none
  chain : List Text := []

namespace Web

/-- What decides how the next line is read into a web. -/
def control (w : Web) : Control := ⟨w.inRegion, w.includeCode, w.pending, w.chain⟩

/-- The web with another control. -/
def under (w : Web) (c : Control) : Web :=
  { w with inRegion := c.inRegion, includeCode := c.includeCode, pending := c.pending, chain := c.chain }

@[simp] theorem control_under (w : Web) (c : Control) : (w.under c).control = c := rfl

@[simp] theorem under_under (w : Web) (c d : Control) : (w.under c).under d = w.under d := rfl

/-- No item looks at the control, or changes it. -/
theorem enact_under (w : Web) (c : Control) (i : Item) : i.enact (w.under c) = (i.enact w).under c := by
  cases i <;> rfl

theorem replay_under (w : Web) (c : Control) (items : List Item) :
    (w.under c).replay items = (w.replay items).under c := by
  induction items generalizing w with
  | nil => rfl
  | cons i items ih =>
    simp only [replay, List.foldl_cons] at ih ⊢
    rw [enact_under, ih]

/-- What every item keeps, every list of items keeps. -/
theorem replay_induction {P : Web → Prop} (step : ∀ w (i : Item), P w → P (i.enact w)) (items : List Item) {w : Web}
    (h : P w) : P (w.replay items) := by
  induction items generalizing w with
  | nil => exact h
  | cons i items ih => exact ih (step w i h)

theorem enact_frame (w : Web) (i : Item) :
    (i.enact w).expanded = w.expanded ∧ (i.enact w).guard = w.guard := by
  cases i <;> exact ⟨rfl, rfl⟩

/-- Items are no part of expansion. -/
theorem replay_frame (w : Web) (items : List Item) :
    (w.replay items).expanded = w.expanded ∧ (w.replay items).guard = w.guard := by
  refine replay_induction (P := fun v => v.expanded = w.expanded ∧ v.guard = w.guard) (fun v i h => ?_) items ⟨rfl, rfl⟩
  obtain ⟨he, hg⟩ := enact_frame v i
  exact ⟨he.trans h.1, hg.trans h.2⟩

theorem replay_append (w : Web) (items more : List Item) : w.replay (items ++ more) = (w.replay items).replay more :=
  List.foldl_append

end Web

/-! ## Transcripts -/

/-- A stretch of reading: the control it leaves behind, its items, and why it stops, if it does. -/
structure Transcript where
  control : Control
  items : List Item := []
  stop : Option Stop := none

namespace Transcript

/-- A transcript, and after it what follows under the control that it leaves, unless it stops. -/
def andThen (t : Transcript) (next : Control → Transcript) : Transcript :=
  match t.stop with
  | none => { next t.control with items := t.items ++ (next t.control).items }
  | some _ => t

/-- A web after a stretch of reading. -/
def apply (t : Transcript) (w : Web) : Web := (w.replay t.items).under t.control

end Transcript

/-- The first document in a list of paths that can be opened; otherwise the error of the first path. -/
def Library.first? (lib : Library) : (paths : List Text) → Option Text → Except (Option Text) (Text × Source)
  | [], first => .error first
  | p :: ps, first =>
    match lib.read p with
    | .ok source => .ok (p, source)
    | .error e => lib.first? ps (first.or (some e))

/-- What is found first can be read under the path at which it is found. -/
theorem Library.read_of_first? {lib : Library} {paths : List Text} {first : Option Text} {path : Text} {source : Source}
    (h : lib.first? paths first = .ok (path, source)) : lib.read path = .ok source := by
  induction paths generalizing first with
  | nil => exact nomatch h
  | cons p ps ih =>
    unfold first? at h
    cases hp : lib.read p with
    | ok found =>
      rw [hp] at h
      cases h
      exact hp
    | error e =>
      rw [hp] at h
      exact ih h

/-- The items of a directive that changes no control. -/
def Directive.items (d : Directive) (args : Text) (l : LogicalLine) : List Item :=
  match d with
  | .beginGroup k => [.opened k (fields args)]
  | .endGroup k => [.closed k (fields args)]
  | .use k => if fields args = [] then [] else [.use ⟨k, fields args, l.body, l.position⟩]
  | .display k => (requestOf .display k args l).toList.map .requested
  | .output k => (requestOf .output k args l).toList.map .requested
  | .pipe k => (requestOf .pipe k args l).toList.map .requested
  | .print => [.literal args]
  | .beginRegion | .endRegion | .includeFile | .includeCode => []

/-- How an included file is transcribed. -/
abbrev Transcriber := (path : Text) → Source → Control → Transcript

section Lines

variable (settings : Settings) (lib : Library) (read : Transcriber)

/-- The transcript of an included file, which begins outside of any region and leaves the region as it was. -/
def transcribeInclude (target : Text) (l : LogicalLine) (c : Control) : Transcript :=
  match lib.first? (candidates settings.searchPath target l.position.file) none with
  | .error cause => ⟨c, [], some (.failed (.unreadableInclude l target cause))⟩
  | .ok (path, source) =>
    if c.chain.contains (Path.clean path) then ⟨c, [], some (.failed (.duplicateInclude l path c.chain))⟩
    else
      let t := read path source { c with chain := c.chain ++ [Path.clean path], inRegion := false }
      { t with control := { t.control with chain := t.control.chain.dropLast, inRegion := true } }

/-- The transcript of a line inside a region. -/
def transcribeInside (l : LogicalLine) (c : Control) : Transcript :=
  match settings.grammar.classify l with
  | none => ⟨c, [.literal l.text], none⟩
  | some (.beginRegion, _) => ⟨c, [], some (.failed (.delimiter .regionNested l c.chain))⟩
  | some (.endRegion, _) => ⟨{ c with inRegion := false }, [], none⟩
  | some (.includeCode, _) => ⟨{ c with includeCode := true }, [], none⟩
  | some (.includeFile, args) =>
    match fields args with
    | [] => ⟨c, [], none⟩
    | target :: _ => transcribeInclude settings lib read target l c
  | some (d, args) => ⟨c, d.items args l, none⟩

/-- The transcript of a line outside of any region. -/
def transcribeOutside (l : LogicalLine) (c : Control) : Transcript :=
  if settings.grammar.isBegin l.body then ⟨{ c with inRegion := true, includeCode := false }, [], none⟩
  else if settings.grammar.isEnd l.body then ⟨c, [], some (.failed (.delimiter .regionOutside l c.chain))⟩
  else if c.includeCode then ⟨c, [.literal l.text], none⟩
  else ⟨c, [], none⟩

/-- The transcript of a logical line. -/
def transcribeLine (l : LogicalLine) (c : Control) : Transcript :=
  if c.inRegion then transcribeInside settings lib read l c else transcribeOutside settings l c

/-- The transcript of a physical line. -/
def transcribePhysical (position : Position) (text : Text) (c : Control) : Transcript :=
  match fold c.pending position text with
  | .inl fragment => ⟨{ c with pending := some fragment }, [], none⟩
  | .inr l => transcribeLine settings lib read l { c with pending := none }

/-- The transcript of the physical lines of a file from number `n` on. -/
def transcribeLines (file : Text) : (n : Nat) → List Text → Control → Transcript
  | _, [], c => ⟨c, [], none⟩
  | n, text :: rest, c =>
    (transcribePhysical settings lib read ⟨file, n⟩ text c).andThen (transcribeLines file (n + 1) rest)

end Lines

/-- The transcript of a source, with at most `depth` files inside each other. -/
def transcribeSource (settings : Settings) (lib : Library) : (depth : Nat) → Transcriber
  | 0 => fun _ _ c => ⟨c, [], some .crashed⟩
  | depth + 1 => fun name source c =>
    (transcribeLines settings lib (transcribeSource settings lib depth) name 1 (physicalLines source.text) c).andThen
      fun c => ⟨c, [], source.stop? name⟩

/-- The transcript of reading a source as the next part of a document, by a call that may be cancelled before. -/
def transcribeCall (settings : Settings) (lib : Library) (live : Bool) (name : Text) (source : Source) (c : Control) :
    Transcript :=
  let t : Transcript :=
    if live then transcribeSource settings lib (lib.limit + 1) name source { c with chain := [Path.clean name] }
    else ⟨c, [], some .canceled⟩
  { t with control := { t.control with chain := [] } }

/-- The transcript of a reading call. -/
def Reading.transcribe (settings : Settings) (c : Control) : Reading → Transcript
  | parse lib live name source => transcribeCall settings lib live name source c
  | parseFile lib live name =>
    match lib.read name with
    | .error e => ⟨c, [], some (.failed (.unreadableInput name e))⟩
    | .ok source => transcribeCall settings lib live name source c
  | request r => ⟨c, [.requested r], none⟩

/-- The items of reading calls, one call after another. -/
def Reading.history (settings : Settings) : Control → List Reading → List Item
  | _, [] => []
  | c, r :: rest => (r.transcribe settings c).items ++ history settings (r.transcribe settings c).control rest

/-! ## Reading is replaying -/

/-- What a call leaves behind is what a transcript says. -/
def Transcribes (t : Transcript) (w : Web) (o : Outcome) : Prop := o.1.web = t.apply w ∧ o.2 = t.stop

namespace Transcript

/-- A transcript says all of the control that is left behind, whatever it was before. -/
@[simp] theorem apply_under (t : Transcript) (w : Web) (c : Control) : t.apply (w.under c) = t.apply w := by
  simp only [apply, Web.replay_under, Web.under_under]

theorem andThen_of_stop {t : Transcript} {stop : Stop} (h : t.stop = some stop) (next : Control → Transcript) :
    t.andThen next = t := by
  simp only [andThen, h]

theorem andThen_of_none {t : Transcript} (h : t.stop = none) (next : Control → Transcript) :
    t.andThen next = { next t.control with items := t.items ++ (next t.control).items } := by
  simp only [andThen, h]

end Transcript

/-- Reading on after a stretch that does not stop. -/
theorem Transcribes.andThen {t : Transcript} {w : Web} {o : Outcome} (h : Transcribes t w o)
    {next : Control → Transcript} {f : Session → Outcome} (hf : ∀ s, Transcribes (next s.web.control) s.web (f s)) :
    Transcribes (t.andThen next) w (match o with | (s, none) => f s | stopped => stopped) := by
  obtain ⟨hw, hs⟩ := h
  obtain ⟨s, _ | stop⟩ := o
  · obtain ⟨hw', hs'⟩ := hf s
    simp only at hw hs
    rw [Transcript.andThen_of_none hs.symm]
    rw [hw] at hw' hs'
    refine ⟨hw'.trans ?_, hs'⟩
    simp only [Transcript.apply, Web.replay_under, Web.under_under, Web.replay_append]
    rfl
  · rw [Transcript.andThen_of_stop hs.symm]
    exact ⟨hw, hs⟩

/-- Reading under another control, after which the control is changed again. -/
theorem Transcribes.restore {t : Transcript} {w : Web} {c : Control} {o : Outcome} (h : Transcribes t (w.under c) o)
    (f : Web → Web) (g : Control → Control) (hf : ∀ w d, f (Web.under w d) = w.under (g d)) :
    Transcribes { t with control := g t.control } w (o.1.modify f, o.2) := by
  obtain ⟨hw, hs⟩ := h
  rw [Transcript.apply_under] at hw
  refine ⟨?_, hs⟩
  show f o.1.web = _
  rw [hw]
  exact hf _ _

theorem Session.openFirst_eq (lib : Library) (paths : List Text) (first : Option Text) (s : Session) :
    (s.openFirst lib paths first).1.web = s.web ∧ (s.openFirst lib paths first).2 = lib.first? paths first := by
  induction paths generalizing first s with
  | nil => exact ⟨rfl, rfl⟩
  | cons p ps ih =>
    unfold openFirst Library.first? ask
    cases h : lib.read p with
    | ok source => exact ⟨rfl, rfl⟩
    | error e => exact ih _ _

section Lines

variable {settings : Settings} {lib : Library} {read : Reader} {transcribe : Transcriber}

/-- Whatever file is read, the transcriber says what the reader leaves behind. -/
def ReaderTranscribed (transcribe : Transcriber) (read : Reader) : Prop :=
  ∀ path source s, Transcribes (transcribe path source s.web.control) s.web (read path source s)

variable (h : ReaderTranscribed transcribe read)
include h

theorem include_transcribes (target : Text) (l : LogicalLine) (s : Session) :
    Transcribes (transcribeInclude settings lib transcribe target l s.web.control) s.web
      (includeFile settings lib read target l s) := by
  obtain ⟨hw, ho⟩ := s.openFirst_eq lib (candidates settings.searchPath target l.position.file) none
  unfold includeFile transcribeInclude
  rw [← ho]
  generalize s.openFirst lib (candidates settings.searchPath target l.position.file) none = found at hw
  obtain ⟨⟨web, events⟩, found⟩ := found
  obtain rfl : web = s.web := hw
  rcases found with cause | ⟨path, source⟩
  · exact ⟨rfl, rfl⟩
  · by_cases hc : s.web.chain.contains (Path.clean path) = true
    · simp only [Web.control, hc, if_true]
      exact ⟨rfl, rfl⟩
    · simp only [Web.control, hc, if_false, Bool.false_eq_true]
      -- the file is read with itself on the chain and outside of regions
      let t : Session := (Session.mk s.web events).log .debug "include"
        [Attr.text "file" path, Attr.int "depth" s.web.chain.length]
      have hr := h path source (t.modify fun w => { w with chain := w.chain ++ [Path.clean path], inRegion := false })
      exact hr.restore (c := ⟨false, s.web.includeCode, s.web.pending, s.web.chain ++ [Path.clean path]⟩)
        (fun w => { w with chain := w.chain.dropLast, inRegion := true })
        (fun c => { c with chain := c.chain.dropLast, inRegion := true }) (fun _ _ => rfl)

theorem obey_transcribes {d : Directive} {args : Text} {l : LogicalLine} {s : Session}
    (hd : settings.grammar.classify l = some (d, args)) :
    Transcribes (transcribeInside settings lib transcribe l s.web.control) s.web
      (obey settings lib read d args l s) := by
  unfold transcribeInside
  rw [hd]
  cases d with
  | beginRegion => exact ⟨rfl, rfl⟩
  | endRegion => exact ⟨rfl, rfl⟩
  | includeCode => exact ⟨rfl, rfl⟩
  | includeFile =>
    simp only [obey]
    cases fields args with
    | nil => exact ⟨rfl, rfl⟩
    | cons target rest => exact include_transcribes h target l s
  | beginGroup k => exact ⟨rfl, rfl⟩
  | endGroup k => exact ⟨rfl, rfl⟩
  | use k =>
    simp only [obey, Directive.items]
    cases hf : fields args with
    | nil => exact ⟨rfl, rfl⟩
    | cons name rest => exact ⟨rfl, rfl⟩
  | display k =>
    simp only [obey, Directive.items]
    cases requestOf .display k args l <;> exact ⟨rfl, rfl⟩
  | output k =>
    simp only [obey, Directive.items]
    cases requestOf .output k args l <;> exact ⟨rfl, rfl⟩
  | pipe k =>
    simp only [obey, Directive.items]
    cases requestOf .pipe k args l <;> exact ⟨rfl, rfl⟩
  | print => exact ⟨rfl, rfl⟩

theorem inside_transcribes (l : LogicalLine) (s : Session) :
    Transcribes (transcribeInside settings lib transcribe l s.web.control) s.web
      (scanInside settings lib read l s) := by
  unfold scanInside
  cases hd : settings.grammar.classify l with
  | none =>
    unfold transcribeInside
    rw [hd]
    exact ⟨rfl, rfl⟩
  | some d => exact obey_transcribes h hd

omit h in
theorem outside_transcribes (l : LogicalLine) (s : Session) :
    Transcribes (transcribeOutside settings l s.web.control) s.web (scanOutside settings l s) := by
  unfold scanOutside transcribeOutside
  split
  · exact ⟨rfl, rfl⟩
  · split
    · exact ⟨rfl, rfl⟩
    · by_cases hc : s.web.includeCode = true
      · rw [if_pos hc, if_pos (by exact hc)]; exact ⟨rfl, rfl⟩
      · rw [if_neg hc, if_neg (by exact hc)]; exact ⟨rfl, rfl⟩

theorem line_transcribes (l : LogicalLine) (s : Session) :
    Transcribes (transcribeLine settings lib transcribe l s.web.control) s.web (scanLine settings lib read l s) := by
  unfold scanLine transcribeLine
  by_cases hr : s.web.inRegion = true
  · rw [if_pos hr, if_pos (by exact hr)]; exact inside_transcribes h l s
  · rw [if_neg hr, if_neg (by exact hr)]; exact outside_transcribes l s

theorem physical_transcribes (position : Position) (text : Text) (s : Session) :
    Transcribes (transcribePhysical settings lib transcribe position text s.web.control) s.web
      (scanPhysical settings lib read position text s) := by
  unfold scanPhysical transcribePhysical
  rw [show s.web.control.pending = s.web.pending from rfl]
  cases fold s.web.pending position text with
  | inl fragment => exact ⟨rfl, rfl⟩
  | inr l =>
    let t : Session := s.modify fun w => { w with pending := none }
    have hline : Transcribes (transcribeLine settings lib transcribe l t.web.control) t.web
        (scanLine settings lib read l t) :=
      line_transcribes h l t
    obtain ⟨hw, hs⟩ := hline
    refine ⟨hw.trans ?_, hs⟩
    exact Transcript.apply_under _ s.web { s.web.control with pending := none }

theorem lines_transcribes (file : Text) (n : Nat) (texts : List Text) (s : Session) :
    Transcribes (transcribeLines settings lib transcribe file n texts s.web.control) s.web
      (scanLines settings lib read file n texts s) := by
  induction texts generalizing n s with
  | nil => exact ⟨rfl, rfl⟩
  | cons text rest ih => exact (physical_transcribes h ⟨file, n⟩ text s).andThen (ih (n + 1))

end Lines

/-! ## Whole calls -/

section Calls

variable (settings : Settings) (lib : Library)

theorem source_transcribes (depth : Nat) :
    ReaderTranscribed (transcribeSource settings lib depth) (scanSource settings lib depth) := by
  induction depth with
  | zero => exact fun _ _ _ => ⟨rfl, rfl⟩
  | succ depth ih =>
    intro name source s
    exact (lines_transcribes ih name 1 (physicalLines source.text) s).andThen fun s => ⟨rfl, rfl⟩

/-- **Reading a source into a web is replaying its transcript.** -/
theorem parse_transcribes (live : Bool) (name : Text) (source : Source) {w : Web} (hw : w.expanded = false) :
    Transcribes (transcribeCall settings lib live name source w.control) w (w.parse settings lib live name source) := by
  unfold Web.parse
  rw [if_neg (by simp [hw])]
  cases live with
  | false => exact ⟨rfl, rfl⟩
  | true =>
    have h := (source_transcribes settings lib (lib.limit + 1) name source
      ((Session.mk { w with chain := [Path.clean name] } #[]).log .debug "parse start" [Attr.text "file" name])).restore
      (w := w) (c := { w.control with chain := [Path.clean name] }) (fun w => { w with chain := [] })
      (fun c => { c with chain := [] }) (fun _ _ => rfl)
    rcases ho : scanSource settings lib (lib.limit + 1) name source
      ((Session.mk { w with chain := [Path.clean name] } #[]).log .debug "parse start" [Attr.text "file" name]) with
      ⟨s, _ | stop⟩
    all_goals
      rw [ho] at h
      simp only [if_true, ho]
      exact h

theorem parseFile_transcribes (live : Bool) (name : Text) {w : Web} (hw : w.expanded = false) :
    Transcribes ((Reading.parseFile lib live name).transcribe settings w.control) w
      (w.parseFile settings lib live name) := by
  simp only [Web.parseFile, Reading.transcribe, Session.ask]
  cases lib.read name with
  | error e => exact ⟨rfl, rfl⟩
  | ok source => exact parse_transcribes settings lib live name source hw

/-- What a reading call makes of a web is what its transcript makes of it. -/
theorem Reading.perform_eq (r : Reading) {w : Web} (hw : w.expanded = false) :
    r.perform settings w = (r.transcribe settings w.control).apply w := by
  cases r with
  | parse lib live name source => exact (parse_transcribes settings lib live name source hw).1
  | parseFile lib live name => exact (parseFile_transcribes settings lib live name hw).1
  | request r => rfl

/-- **Reading calls leave what their history makes of a web**, under some control. -/
theorem Web.read_eq (readings : List Reading) {w : Web} (hw : w.expanded = false) :
    ∃ c, w.read settings readings = (w.replay (Reading.history settings w.control readings)).under c := by
  induction readings generalizing w with
  | nil => exact ⟨w.control, rfl⟩
  | cons r readings ih =>
    have hr := Reading.perform_eq settings r hw
    obtain ⟨c, hc⟩ := ih (w := r.perform settings w) (by rw [hr]; exact (replay_frame w _).1.trans hw)
    refine ⟨c, ?_⟩
    simp only [Web.read, List.foldl_cons] at hc ⊢
    rw [hc, hr]
    simp only [Transcript.apply, control_under, replay_under, under_under, Reading.history, replay_append]

end Calls

end Literate
