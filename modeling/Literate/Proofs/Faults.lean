import Literate.Proofs.Documents
import Literate.Proofs.Inclusion

/-!
# Every failure has one fault

Whatever calls were made before, a call that fails has a failure that matches one fault only, and this is one of the
faults of the call (`Web.run_failures`), no matter how deep in included files or in uses it arose: what a single line
can say when it stops a call (`rule_ofReading`) is all that documents can say.
-/

namespace Literate

open Text Log

/-! ## Reading -/

/-- The faults of a call that reads a document. -/
def Fault.ofReading : List Fault :=
  [.regionNested, .regionOutside, .duplicateInclude, .unreadableInclude, .unreadableInput, .alreadyExpanded]

/-- No document of a library is abandoned while it is read. -/
def Library.Live (lib : Library) : Prop := ∀ path source, lib.read path = .ok source → source.abandoned = false

theorem Library.Live.ofList {documents : List (Text × Source)} (h : ∀ d ∈ documents, d.2.abandoned = false) :
    (ofList documents).Live :=
  fun _ _ hread => h _ (mem_of_read_ofList hread)

/-- The bound of a library on files inside each other is one that they do not reach. -/
def Library.Bounded (lib : Library) : Prop := ∃ names : Finset Text, lib.Opens names ∧ names.card ≤ lib.limit

section Reading

/-- Whatever a line says, if it fails, it fails with one of the faults of reading. -/
theorem rule_ofReading : Rule (fun _ => True) (Stop.OfKinds Fault.ofReading) where
  literal _ := trivial
  directive _ _ _ _ _ := trivial
  delimiter fault l chain hf := by
    refine .failed (Failure.delimiter_madeOf fault l chain) ?_
    rcases hf with rfl | rfl <;> decide
  unreadable l target cause := .failed (Failure.unreadableInclude_madeOf l target cause) (by decide)
  duplicate l path chain := .failed (Failure.duplicateInclude_madeOf l path chain) (by decide)
  crashed := .crashed

theorem endsIn_ofReading (name : Text) (source : Source) : source.EndsIn (Stop.OfKinds Fault.ofReading) name := by
  intro stop hs
  unfold Source.stop? at hs
  split at hs
  · obtain rfl := Option.some.inj hs
    exact .canceled
  · obtain ⟨e, _, rfl⟩ := Option.map_eq_some_iff.mp hs
    exact .failed (Failure.unreadableInput_madeOf name e) (by decide)

/-- A line does not cancel a call. -/
theorem rule_notCanceled : Rule (fun _ => True) (· ≠ .canceled) where
  literal _ := trivial
  directive _ _ _ _ _ := trivial
  delimiter _ _ _ _ := Stop.noConfusion
  unreadable _ _ _ := Stop.noConfusion
  duplicate _ _ _ := Stop.noConfusion
  crashed := Stop.noConfusion

theorem endsIn_notCanceled {source : Source} (h : source.abandoned = false) (name : Text) :
    source.EndsIn (· ≠ .canceled) name := by
  intro stop hs
  unfold Source.stop? at hs
  rw [h, if_neg Bool.false_ne_true] at hs
  obtain ⟨e, _, rfl⟩ := Option.map_eq_some_iff.mp hs
  exact Stop.noConfusion

variable (settings : Settings) {lib : Library} {w : Web}

theorem parse_of_expanded (lib : Library) (live : Bool) (name : Text) (source : Source) (hw : w.expanded = true) :
    (w.parse settings lib live name source).2 =
      some (.failed ((Failure.ofFault .alreadyExpanded).withAttrs [Attr.text "file" name])) := by
  unfold Web.parse
  rw [if_pos hw]

/-- Nothing is read into an expanded web. -/
theorem parse_web_of_expanded (lib : Library) (live : Bool) (name : Text) (source : Source) (hw : w.expanded = true) :
    (w.parse settings lib live name source).1.web = w := by
  unfold Web.parse
  rw [if_pos hw]

theorem parseFile_web (lib : Library) (live : Bool) (name : Text) (w : Web) :
    (w.parseFile settings lib live name).1.web = match lib.read name with
      | .error _ => w
      | .ok source => (w.parse settings lib live name source).1.web := by
  unfold Web.parseFile Session.ask
  cases lib.read name <;> rfl

theorem parseFile_stop (lib : Library) (live : Bool) (name : Text) (w : Web) :
    (w.parseFile settings lib live name).2 = match lib.read name with
      | .error e => some (.failed (.unreadableInput name e))
      | .ok source => (w.parse settings lib live name source).2 := by
  unfold Web.parseFile Session.ask
  cases lib.read name <;> rfl

theorem parse_ofKinds (lib : Library) (live : Bool) (name : Text) (source : Source) (w : Web) :
    ∀ stop, (w.parse settings lib live name source).2 = some stop → stop.OfKinds Fault.ofReading := by
  intro stop hs
  cases hw : w.expanded with
  | true =>
    obtain rfl := Option.some.inj ((parse_of_expanded settings lib live name source hw).symm.trans hs)
    exact .failed ((Failure.MadeOf.ofFault .alreadyExpanded).withAttrs _) (by decide)
  | false =>
    rw [(parse_transcribes settings lib live name source hw).2] at hs
    exact (transcribeCall_follows settings rule_ofReading (fun path source _ => endsIn_ofReading path source)
      (fun _ => .canceled) (endsIn_ofReading name source) _).stop stop hs

theorem parse_ne_canceled (hlib : lib.Live) {source : Source} (hs : source.abandoned = false) (name : Text) (w : Web) :
    (w.parse settings lib true name source).2 ≠ some .canceled := by
  intro hc
  cases hw : w.expanded with
  | true => exact nomatch (parse_of_expanded settings lib true name source hw).symm.trans hc
  | false =>
    rw [(parse_transcribes settings lib true name source hw).2] at hc
    have hfollows : Transcript.Follows _ _ (transcribeCall settings lib true name source w.control) :=
      transcribeCall_follows settings rule_notCanceled
        (fun path source h => endsIn_notCanceled (hlib path source h) path) (fun h => absurd h Bool.noConfusion)
        (endsIn_notCanceled hs name) _
    exact hfollows.stop _ hc rfl

theorem parse_ne_crashed (hlib : lib.Bounded) (live : Bool) (name : Text) (source : Source) (w : Web) :
    (w.parse settings lib live name source).2 ≠ some .crashed := by
  obtain ⟨names, hnames, hlimit⟩ := hlib
  cases hw : w.expanded with
  | true =>
    rw [parse_of_expanded settings lib live name source hw]
    exact fun h => nomatch h
  | false =>
    cases live with
    | false =>
      rw [(parse_transcribes settings lib false name source hw).2]
      exact fun h => nomatch h
    | true =>
      obtain ⟨_, _, hl⟩ := parse_leads settings hnames hlimit name source hw
      exact ((Desk.Explained.start name source w).leads hl).stop

end Reading

/-! ## Calls -/

/-- Why a call stops, if it does. -/
def Call.stop? (settings : Settings) (w : Web) : Call → Option Stop
  | read (.parse lib live name source) => (w.parse settings lib live name source).2
  | read (.parseFile lib live name) => (w.parseFile settings lib live name).2
  | read (.request _) => none
  | expandAll patience => (w.expandAll settings patience).2
  | render ref =>
    match w.render ref with
    | .ok _ => none
    | .error stop => some stop

/-- The faults with which a call can fail. -/
def Call.faults : Call → List Fault
  | read _ => Fault.ofReading
  | expandAll _ => [.referenceCycle, .maxDepthExceeded, .undefinedReference]
  | render _ => [.undefinedReference, .unexpanded]

/-- Nobody cancels a call, neither before it begins nor while it goes on. -/
def Call.Live : Call → Prop
  | read (.parse lib live _ source) => live = true ∧ source.abandoned = false ∧ lib.Live
  | read (.parseFile lib live _) => live = true ∧ lib.Live
  | read (.request _) => True
  | expandAll patience => patience = none
  | render _ => True

/-- A call reads, and its library has a bound that files inside each other do not reach. -/
def Call.ReadsBounded : Call → Prop
  | read (.parse lib _ _ _) => lib.Bounded
  | read (.parseFile lib _ _) => lib.Bounded
  | read (.request _) => True
  | expandAll _ => False
  | render _ => False

section Expansion

variable {settings : Settings} {w : Web}

theorem Cause.fault_mem (c : Cause) : c.fault ∈ [.referenceCycle, .maxDepthExceeded, .undefinedReference] := by
  cases c <;> decide

/-- Why expanding everything stops: there is a problem with a reference, or it was cancelled. -/
theorem Web.Sound.expandAll_stop (h : w.Sound) (patience : Option Nat) {stop : Stop}
    (hs : (w.expandAll settings patience).2 = some stop) :
    (stop = .canceled ∧ patience ≠ none) ∨ ∃ p : Problem, stop = p.stop w.repository settings.maxDepth := by
  cases hx : w.expanded with
  | true =>
    rw [expandAll_of_expanded settings patience hx] at hs
    exact nomatch hs
  | false =>
    rcases (expandAll_spec settings patience hx h.guard).error stop hs with hc | ⟨p, _, hp⟩
    · exact Or.inl hc
    · exact Or.inr ⟨p, hp⟩

/-- Why a text cannot be rendered. -/
theorem Web.render_stop {ref : Ref} {stop : Stop} (h : w.render ref = .error stop) :
    stop.OfKinds [.undefinedReference, .unexpanded] ∧ stop ≠ .canceled := by
  unfold render at h
  split at h
  · obtain rfl := Except.error.inj h
    refine ⟨fun f hf => ?_, ?_⟩
    · obtain ⟨g, hg, hk⟩ := w.undefinedStop_ofKinds ref none f hf
      exact ⟨g, List.mem_cons.mpr (Or.inl (List.mem_singleton.mp hg)), hk⟩
    · unfold undefinedStop
      split <;> exact Stop.noConfusion
  · split at h
    · obtain rfl := Except.error.inj h
      exact ⟨.failed ((Failure.MadeOf.ofFault .unexpanded).withAttrs _) (by decide), Stop.noConfusion⟩
    · split at h
      · exact nomatch h
      · obtain rfl := Except.error.inj h
        exact ⟨.crashed, Stop.noConfusion⟩

end Expansion

/-- What stops a call is accounted for: a failure matches one fault, which is one of the call, nobody cancels a call that is
live, and one that reads has an answer. -/
structure Call.Accounted (settings : Settings) (w : Web) (c : Call) : Prop where
  failure : ∀ f, c.stop? settings w = some (.failed f) → ∃ g ∈ c.faults, f.OfKind g
  live : c.Live → c.stop? settings w ≠ some .canceled
  answer : c.ReadsBounded → c.stop? settings w ≠ some .crashed

namespace Call

variable (settings : Settings) (w : Web)

theorem parse_accounted (lib : Library) (live : Bool) (name : Text) (source : Source) :
    Accounted settings w (.read (.parse lib live name source)) where
  failure f hf := parse_ofKinds settings lib live name source w _ hf f rfl
  live := by
    rintro ⟨rfl, hs, hlib⟩
    exact parse_ne_canceled settings hlib hs name w
  answer hlib := parse_ne_crashed settings hlib live name source w

/-- A file that can be read is read as a document, and one that cannot be is a failure of its own. -/
theorem parseFile_accounted (lib : Library) (live : Bool) (name : Text) :
    Accounted settings w (.read (.parseFile lib live name)) := by
  have hstop : stop? settings w (.read (.parseFile lib live name)) = _ := parseFile_stop settings lib live name w
  cases hread : lib.read name with
  | error e =>
    rw [hread] at hstop
    refine ⟨fun f hf => ?_, fun _ h => (nomatch hstop.symm.trans h), fun _ h => (nomatch hstop.symm.trans h)⟩
    obtain rfl := Stop.failed.inj (Option.some.inj (hstop.symm.trans hf))
    have hmem : Fault.unreadableInput ∈ Fault.ofReading := by decide
    exact ⟨.unreadableInput, hmem, (Failure.unreadableInput_madeOf name e).ofKind⟩
  | ok source =>
    rw [hread] at hstop
    have hparse := parse_accounted settings w lib live name source
    exact ⟨fun f hf => hparse.failure f (hstop.symm.trans hf),
      fun ⟨hlive, hlib⟩ h => hparse.live ⟨hlive, hlib name source hread, hlib⟩ (hstop.symm.trans h),
      fun hlib h => hparse.answer hlib (hstop.symm.trans h)⟩

variable {w}

theorem expandAll_accounted (hw : w.Sound) (patience : Option Nat) : Accounted settings w (.expandAll patience) where
  failure f hf := by
    rcases hw.expandAll_stop patience hf with ⟨hc, _⟩ | ⟨p, hp⟩
    · exact nomatch hc
    · obtain ⟨g, hg, hk⟩ := p.stop_ofKinds _ _ f hp.symm
      exact ⟨g, List.mem_singleton.mp hg ▸ p.cause.fault_mem, hk⟩
  live hpatience hs := by
    rcases hw.expandAll_stop patience hs with ⟨_, hc⟩ | ⟨p, hp⟩
    · exact hc hpatience
    · obtain hcrash | ⟨f, hf⟩ := p.stop_cases
      · exact nomatch hp.trans hcrash
      · exact nomatch hp.trans hf
  answer h := h.elim

variable (w)

theorem render_accounted (ref : Ref) : Accounted settings w (.render ref) := by
  have hstop : stop? settings w (.render ref) =
    match w.render ref with
    | .ok _ => none
    | .error stop => some stop := rfl
  cases hr : w.render ref with
  | ok text =>
    rw [hr] at hstop
    exact ⟨fun _ h => (nomatch hstop.symm.trans h), fun _ h => (nomatch hstop.symm.trans h), fun h => h.elim⟩
  | error stop =>
    rw [hr] at hstop
    obtain ⟨hk, hne⟩ := Web.render_stop hr
    exact ⟨fun f hf => hk f (Option.some.inj (hstop.symm.trans hf)),
      fun _ h => hne (Option.some.inj (hstop.symm.trans h)), fun h => h.elim⟩

end Call

namespace Web

/-- **Every failure has one fault.** After calls of any kind, whatever became of them, a call that fails matches exactly
one fault, and this is one of its own. A call that nobody cancels is not cancelled, and one that reads has an answer, so
what stops it is such a failure. -/
theorem run_failures (settings : Settings) (calls : List Call) (c : Call) :
    let w := run settings calls .empty
    (∀ f, c.stop? settings w = some (.failed f) → ∃ g ∈ c.faults, f.OfKind g) ∧
    (c.Live → c.stop? settings w ≠ some .canceled) ∧
    (c.ReadsBounded → c.stop? settings w ≠ some .crashed) := by
  intro w
  have hw : w.Sound := run_sound settings calls
  have hc : c.Accounted settings w := by
    cases c with
    | read r =>
      cases r with
      | parse lib live name source => exact Call.parse_accounted settings w lib live name source
      | parseFile lib live name => exact Call.parseFile_accounted settings w lib live name
      | request q => exact ⟨fun _ h => (nomatch h), fun _ h => (nomatch h), fun _ h => (nomatch h)⟩
    | expandAll patience => exact Call.expandAll_accounted settings hw patience
    | render ref => exact Call.render_accounted settings w ref
  exact ⟨hc.failure, hc.live, hc.answer⟩

/-- Whether a call stops with a failure that descends from a fault. -/
def hasFailedWith (g : Fault) : Option Stop → Bool
  | some (.failed f) => f.hasFault g
  | _ => false

theorem eq_failed_of_hasFailedWith {g : Fault} {stop : Option Stop} (h : hasFailedWith g stop) :
    ∃ f, stop = some (.failed f) ∧ f.hasFault g := by
  unfold hasFailedWith at h
  split at h
  · exact ⟨_, rfl, h⟩
  · exact absurd h Bool.false_ne_true

/-- A document that includes one with a region in a region. -/
def nested : Call :=
  .read (.parse (.ofList [("b", { text := "=begin litweb\n=begin litweb\n" })]) true "a"
    { text := "=begin litweb\n=include b\n" })

/-- It fails for one reason, and it fails for this one even though another document could not be included before. -/
theorem run_failures_nested :
    let w := run .standard
      [.read (.parse (.ofList []) true "a" { text := "=begin litweb\n=include b\n" })] .empty
    nested.Live ∧ ∃ f, nested.stop? .standard w = some (.failed f) ∧ f.OfKind .regionNested := by
  intro w
  obtain ⟨f, hstop, hf⟩ := eq_failed_of_hasFailedWith
    (show hasFailedWith .regionNested (nested.stop? .standard w) by decide)
  obtain ⟨hkind, -, -⟩ := run_failures .standard
    [.read (.parse (.ofList []) true "a" { text := "=begin litweb\n=include b\n" })] nested
  obtain ⟨g, _, hk⟩ := hkind f hstop
  obtain rfl := (hk.hasFault _).mp hf
  exact ⟨⟨rfl, rfl, .ofList (by decide)⟩, f, hstop, hk⟩

end Web

end Literate
