import Literate.Proofs.Deliveries
import Literate.Proofs.Provenance

/-!
# Permission

A document cannot act on the machine without permission. Preparing a run only logs (`Command.Run.prepare_prepared`);
what it does then is handing texts to sinks, so that a record of these deliveries (`Command.Run.deliveries`) explains
all that happens (`Command.Run.run_performs`). A delivery to a file or to a command is what a pair of the command line
says, unless the policy allows the directives of documents to do the same (`Command.Run.fromPair_of_delivery`); and a
run that is not stopped does what each pair says (`Command.Run.exists_delivery`), and all of its sinks have taken their
texts (`Command.Run.run_undergoes`). A run that is stopped before its requests are carried out delivers nothing. The main
statement is `run_permission`.
-/

namespace Literate

open Text Log

namespace Command

theorem replay_onlyLogs (h : Host) (events : Array Event) : h.OnlyLogs (replay h events) := by
  unfold replay
  rw [← Array.foldl_toList]
  induction events.toList generalizing h with
  | nil => exact .refl h
  | cons e events ih =>
    rw [List.foldl_cons]
    cases e with
    | asked name => exact ih h
    | logged m => exact (Host.OnlyLogs.say h m.level m.text m.attrs).trans (ih _)

/-- What sources add to a web, and to a host, while they are read one after another. -/
structure Reads (P : Request → Prop) (h : Host) (w : Web) (o : Host × Web × Option Stop) : Prop where
  logs : h.OnlyLogs o.1
  keeps : ∀ q ∈ w.queue, q ∈ o.2.1.queue
  asks : o.2.1.Asks P
  expanded : o.2.1.expanded = false
  guard : o.2.1.guard = []

theorem readAll_reads (settings : Settings) {P : Request → Prop} (hP : ∀ q : Request, q.IsDirected → P q)
    (sources : List InputSource) (h : Host) {w : Web} (ha : w.Asks P) (hx : w.expanded = false) (hg : w.guard = []) :
    Reads P h w (Input.readAll settings h w sources) := by
  induction sources generalizing h w with
  | nil => exact ⟨.refl h, fun q hq => hq, ha, hx, hg⟩
  | cons source rest ih =>
    unfold Input.readAll
    cases Input.openSource h source with
    | error f => exact ⟨.refl h, fun q hq => hq, ha, hx, hg⟩
    | ok text =>
      dsimp only
      have hp := ha.parse settings h.disk.library hP true source.name text hx
      have hq := fun q hq => Web.mem_queue_parse settings h.disk.library (w := w) (q := q) hq true source.name text hx
      have hweb := (parse_transcribes settings h.disk.library true source.name text hx).1
      have hframe := Web.replay_frame w (transcribeCall settings h.disk.library true source.name text w.control).items
      have hx' := (congrArg Web.expanded hweb).trans (hframe.1.trans hx)
      have hg' := (congrArg Web.guard hweb).trans (hframe.2.trans hg)
      generalize w.parse settings h.disk.library true source.name text = o at hp hq hx' hg'
      obtain ⟨s, _ | stop⟩ := o
      · have hr := ih (replay h s.events) hp hx' hg'
        exact ⟨(replay_onlyLogs h s.events).trans hr.logs, fun q h => hr.keeps q (hq q h), hr.asks, hr.expanded, hr.guard⟩
      · exact ⟨replay_onlyLogs h s.events, hq, hp, hx', hg'⟩

namespace Run

variable (r : Run) (h : Host)

/-- The sources of a run as they are read into the web of the command line's requests. -/
def reading (settings : Settings) (requests : List Request) : Host × Web × Option Stop :=
  r.input.read settings (r.input.settings h).1 (requests.foldl Web.request .empty)

/-- Why a run is stopped before any request is carried out: its settings are not valid, a pair of the command line is
malformed, or reading or expansion fails. -/
inductive Fails : Stop → Prop
  | settings {stop : Stop} : (r.input.settings h).2 = .error stop → Fails stop
  | pairs {settings : Settings} {f : Failure} :
      (r.input.settings h).2 = .ok settings → r.requests = .error f → Fails (.failed f)
  | reading {settings : Settings} {requests : List Request} {stop : Stop} :
      (r.input.settings h).2 = .ok settings → r.requests = .ok requests → (r.reading h settings requests).2.2 = some stop →
      Fails stop
  | expansion {settings : Settings} {requests : List Request} {stop : Stop} :
      (r.input.settings h).2 = .ok settings → r.requests = .ok requests → (r.reading h settings requests).2.2 = none →
      ((r.reading h settings requests).2.1.expandAll settings none).2 = some stop → Fails stop

/-- What preparing a run leaves behind: messages in the log, and, unless the run is stopped, a web all of whose requests
come from the command line or from directives, and in which no pair of the command line is forgotten. -/
structure Prepared (o : Host × Except Stop Web) : Prop where
  logs : h.OnlyLogs o.1
  asks : ∀ w, o.2 = .ok w → w.Asks r.Asked
  pairs : ∀ w, o.2 = .ok w → ∀ action kind, ∀ pair ∈ r.pairs action kind, ∃ q ∈ w.queue, IsAskedBy action kind pair q

theorem commanded_asks {requests : List Request} (hr : r.requests = .ok requests) :
    (requests.foldl Web.request .empty).Asks r.Asked ∧ (requests.foldl Web.request .empty).expanded = false ∧
      (requests.foldl Web.request .empty).guard = [] := by
  refine List.foldlRecOn requests Web.request
    (motive := fun v : Web => v.Asks r.Asked ∧ v.expanded = false ∧ v.guard = [])
    ⟨fun q hq => absurd hq (Array.not_mem_empty q), rfl, rfl⟩ ?_
  intro w hw q hq
  exact ⟨hw.1.request (.inl ((requests_ok hr).2 q hq)), hw.2⟩

theorem reading_reads (settings : Settings) {requests : List Request} (hr : r.requests = .ok requests) :
    Reads r.Asked h (requests.foldl Web.request .empty) (r.reading h settings requests) := by
  obtain ⟨ha, hx, hg⟩ := r.commanded_asks hr
  have hlogs : h.OnlyLogs (r.input.settings h).1 := .say h _ _ _
  unfold reading Input.read
  split
  · exact ⟨hlogs, fun q hq => hq, ha, hx, hg⟩
  · rename_i sources _
    have hread := readAll_reads settings (fun q hq => .inr hq) sources (r.input.settings h).1 ha hx hg
    exact ⟨hlogs.trans hread.logs, hread.keeps, hread.asks, hread.expanded, hread.guard⟩

theorem prepare_of_settings {stop : Stop} (hs : (r.input.settings h).2 = .error stop) :
    r.prepare h = ((r.input.settings h).1, .error stop) := by
  unfold prepare
  rcases hsettings : r.input.settings h with ⟨h₁, e⟩
  rw [hsettings] at hs
  obtain rfl : e = _ := hs
  rfl

variable {r} in
theorem prepare_of_pairs {settings : Settings} {f : Failure} (hs : (r.input.settings h).2 = .ok settings)
    (hr : r.requests = .error f) : r.prepare h = ((r.input.settings h).1, .error (.failed f)) := by
  unfold prepare
  rcases hsettings : r.input.settings h with ⟨h₁, e⟩
  rw [hsettings] at hs
  obtain rfl : e = _ := hs
  dsimp only
  rw [hr]

variable {r} in
/-- If its settings are valid and no pair is malformed, a run reads its sources and expands what it has read. -/
theorem prepare_of_requests {settings : Settings} {requests : List Request}
    (hs : (r.input.settings h).2 = .ok settings) (hr : r.requests = .ok requests) :
    r.prepare h = match r.reading h settings requests with
      | (h, _, some stop) => (h, .error stop)
      | (h, w, none) => (replay h (w.expandAll settings none).1.events,
          match (w.expandAll settings none).2 with
          | some stop => .error stop
          | none => .ok (w.expandAll settings none).1.web) := by
  unfold prepare reading
  rcases hsettings : r.input.settings h with ⟨h₁, e⟩
  rw [hsettings] at hs
  obtain rfl : e = _ := hs
  dsimp only
  rw [hr]
  dsimp only
  generalize r.input.read settings h₁ (requests.foldl Web.request .empty) = o
  obtain ⟨h₂, w, _ | stop⟩ := o
  · dsimp only
    generalize w.expandAll settings none = x
    obtain ⟨s, _ | stop⟩ := x <;> rfl
  · rfl

/-- A run only logs before its requests are carried out. It fails before that, or its sources are read and expanded. -/
theorem prepare_cases : h.OnlyLogs (r.prepare h).1 ∧
    ((∃ stop, (r.prepare h).2 = .error stop ∧ r.Fails h stop) ∨
      ∃ settings requests, (r.input.settings h).2 = .ok settings ∧ r.requests = .ok requests ∧
        (r.prepare h).2 = .ok ((r.reading h settings requests).2.1.expandAll settings none).1.web) := by
  have hlogs : h.OnlyLogs (r.input.settings h).1 := .say h _ _ _
  cases hs : (r.input.settings h).2 with
  | error stop =>
    rw [r.prepare_of_settings h hs]
    exact ⟨hlogs, .inl ⟨_, rfl, .settings hs⟩⟩
  | ok settings =>
    cases hr : r.requests with
    | error f =>
      rw [prepare_of_pairs h hs hr]
      exact ⟨hlogs, .inl ⟨_, rfl, .pairs hs hr⟩⟩
    | ok requests =>
      have hreading := (r.reading_reads h settings hr).logs
      rcases hread : r.reading h settings requests with ⟨h', w, _ | stop⟩
      · rw [hread] at hreading
        rw [prepare_of_requests h hs hr, hread]
        refine ⟨hreading.trans (replay_onlyLogs h' _), ?_⟩
        cases hexpand : (w.expandAll settings none).2 with
        | some stop => exact .inl ⟨stop, by simp only [hexpand], .expansion hs hr (by rw [hread]) (by rw [hread]; exact hexpand)⟩
        | none => exact .inr ⟨settings, requests, rfl, rfl, by simp only [hread, hexpand]⟩
      · rw [hread] at hreading
        rw [prepare_of_requests h hs hr, hread]
        exact ⟨hreading, .inl ⟨stop, rfl, .reading hs hr (by rw [hread])⟩⟩

theorem prepare_prepared : r.Prepared h (r.prepare h) := by
  obtain ⟨hlogs, ⟨stop, hp, _⟩ | ⟨settings, requests, hs, hr, hp⟩⟩ := r.prepare_cases h
  · exact ⟨hlogs, fun w hw => (nomatch hp.symm.trans hw), fun w hw => (nomatch hp.symm.trans hw)⟩
  · have hread := r.reading_reads h settings hr
    have hqueue : ∀ w, (r.prepare h).2 = .ok w → w.queue = (r.reading h settings requests).2.1.queue := by
      intro w hw
      obtain rfl := Except.ok.inj (hp.symm.trans hw)
      rw [(Web.expandAll_spec settings none hread.expanded hread.guard).frame]
    refine ⟨hlogs, fun w hw q hq => hread.asks q (hqueue w hw ▸ hq), fun w hw action kind pair hm => ?_⟩
    obtain ⟨q, hq, ha⟩ := (requests_ok hr).1 action kind pair hm
    have hkept := Web.mem_queue_foldl_request hq (ha.action_ne_display hm) .empty
    exact ⟨q, hqueue w hw ▸ hread.keeps q hkept, ha⟩

/-- A run that fails before its requests are carried out is stopped there. -/
theorem prepare_of_fails {stop : Stop} (hf : r.Fails h stop) : (r.prepare h).2 = .error stop := by
  cases hf with
  | settings hs => rw [r.prepare_of_settings h hs]
  | pairs hs hr => rw [prepare_of_pairs h hs hr]
  | @reading settings requests _ hs hr hread =>
    rw [prepare_of_requests h hs hr]
    generalize r.reading h settings requests = o at hread
    obtain ⟨h', w, stop?⟩ := o
    obtain rfl : stop? = _ := hread
    rfl
  | @expansion settings requests _ hs hr hread hexpand =>
    rw [prepare_of_requests h hs hr]
    generalize r.reading h settings requests = o at hread hexpand
    obtain ⟨h', w, stop?⟩ := o
    obtain rfl : stop? = _ := hread
    dsimp only at hexpand ⊢
    rw [hexpand]

/-- A malformed pair makes a run fail. -/
theorem fails_of_pair {action : Action} {kind : Kind} {pair : Text} (hm : pair ∈ r.pairs action kind)
    (hp : splitPair? pair = none) : ∃ stop, r.Fails h stop := by
  cases hs : (r.input.settings h).2 with
  | error stop => exact ⟨_, .settings hs⟩
  | ok settings =>
    cases hr : r.requests with
    | error f => exact ⟨_, .pairs hs hr⟩
    | ok requests =>
      obtain ⟨q, _, ha⟩ := (requests_ok hr).1 action kind pair hm
      exact nomatch hp.symm.trans ha.pair

/-! ## What a run delivers -/

/-- A run whose requests are carried out by any effects: `start` is the state in which they find the prepared host. -/
def runWith {σ : Type} (effects : Effects σ) (start : Host → σ) : σ × Option Stop :=
  match r.prepare h with
  | (h, .error stop) => (start h, some stop)
  | (h, .ok w) =>
    r.dispatcher.dispatch effects w.render true
      (effects.say (start h) .debug "dispatch"
        [Attr.bool "display" r.policy.display, Attr.bool "output" r.policy.output, Attr.bool "pipe" r.policy.pipe])
      w.requests

theorem run_eq_runWith : r.run h = r.runWith h (Host.effects true) id := by
  unfold run runWith
  rcases r.prepare h with ⟨h', stop | w⟩ <;> rfl

/-- A run that keeps a record of its deliveries. -/
def recorded : (Host × List Delivery) × Option Stop := r.runWith h (Host.effects true).recorded (·, [])

/-- All that a run delivers, in order. -/
def deliveries : List Delivery := (r.recorded h).1.2

/-- To keep a record does not change where a run ends, or how. -/
theorem run_eq_recorded : r.run h = ((r.recorded h).1.1, (r.recorded h).2) := by
  rw [run_eq_runWith]
  unfold recorded runWith
  rcases r.prepare h with ⟨h', stop | w⟩
  · rfl
  · exact r.dispatcher.dispatch_recorded (Host.effects true) w.render (_, []) w.requests

/-- A run only logs and delivers. -/
theorem run_performs : h.Performs (r.deliveries h) (r.run h).1 := by
  have hp := (r.prepare_prepared h).logs
  rw [run_eq_recorded]
  unfold deliveries recorded runWith
  generalize r.prepare h = o at hp ⊢
  obtain ⟨h', stop | w⟩ := o
  · exact .logs hp
  · exact r.dispatcher.dispatch_performs w.render (hp.trans (.say _ _ _ _)) w.requests

/-- If a run is not stopped, then every sink has taken its text. -/
theorem run_undergoes (hgo : (r.run h).2 = none) : h.Undergoes (r.deliveries h) (r.run h).1 := by
  have hp := (r.prepare_prepared h).logs
  rw [run_eq_recorded] at hgo ⊢
  unfold deliveries recorded runWith at *
  generalize r.prepare h = o at hp hgo ⊢
  obtain ⟨h', stop | w⟩ := o
  · exact nomatch hgo
  · exact r.dispatcher.dispatch_undergoes w.render (.logs (hp.trans (.say _ _ _ _))) hgo

/-- A delivery is what a request of the prepared web asks for. -/
theorem exists_request {x : Delivery} (hx : x ∈ r.deliveries h) :
    ∃ w, (r.prepare h).2 = .ok w ∧ ∃ q, r.Asked q ∧ r.dispatcher.Delivers w.render q x := by
  have hasks := (r.prepare_prepared h).asks
  unfold deliveries recorded runWith at hx
  generalize r.prepare h = o at hasks hx ⊢
  obtain ⟨h', stop | w⟩ := o
  · exact absurd hx List.not_mem_nil
  · obtain ⟨q, hq, hd⟩ := r.dispatcher.dispatch_delivers _ w.render _ w.requests x hx
    exact ⟨w, rfl, q, hasks w rfl q ((mem_requests_iff (hasks w rfl)).mp hq), hd⟩

/-- A pair of the command line says that a delivery is to be made: the pair has its name and its target, and its text is
that of the name in the prepared web. -/
structure FromPair (action : Action) (target : Text) (kind : Kind) (x : Delivery) : Prop where
  pair : ∃ pair ∈ r.pairs action kind, splitPair? pair = some (x.name, target)
  text : ∃ w, (r.prepare h).2 = .ok w ∧ w.render ⟨kind, x.name⟩ = .ok x.text

variable {r h}

/-- What the policy forbids to directives is delivered only because a pair says so. -/
theorem fromPair_of_delivery {action : Action} {target : Text} {x : Delivery} (hx : x ∈ r.deliveries h)
    (hs : ∀ q, x.sink = r.dispatcher.sink q → q.action = action ∧ q.target = target) (hd : action ≠ .display)
    (hp : r.policy.allows action = false) : ∃ kind, r.FromPair h action target kind x := by
  obtain ⟨w, hw, q, hq, hdel⟩ := r.exists_request h hx
  obtain ⟨rfl, rfl⟩ := hs q hdel.sink
  refine ⟨q.ref.kind, ?_, w, hw, ?_⟩
  · rcases hq with hc | hdir
    · rw [hdel.name]
      exact hc.pair.resolve_left hd
    · have hs : r.dispatcher.suppresses q = true := by
        unfold Dispatcher.suppresses
        rw [hdir.origin, show r.dispatcher.policy.allows q.action = false from hp]
        rfl
      exact absurd (hs.symm.trans hdel.unsuppressed) (by decide)
  · rw [hdel.name]
    exact hdel.text

/-- Unless the run is stopped, each pair of the command line makes a delivery. -/
theorem exists_delivery (hgo : (r.run h).2 = none) {action : Action} {kind : Kind} {pair name target : Text}
    (hm : pair ∈ r.pairs action kind) (hp : splitPair? pair = some (name, target)) :
    ∃ x ∈ r.deliveries h, ∃ q : Request, q.action = action ∧ q.target = target ∧ x.name = name ∧
      x.sink = r.dispatcher.sink q := by
  have hasks := (r.prepare_prepared h).asks
  have hpairs := (r.prepare_prepared h).pairs
  rw [run_eq_recorded] at hgo
  unfold deliveries
  unfold recorded runWith at hgo ⊢
  generalize r.prepare h = o at hasks hpairs hgo ⊢
  obtain ⟨h', stop | w⟩ := o
  · exact nomatch hgo
  · obtain ⟨q, hq, ha⟩ := hpairs w rfl action kind pair hm
    obtain ⟨rfl, rfl⟩ := Prod.mk.inj (Option.some.inj (hp.symm.trans ha.pair))
    have hs : r.dispatcher.suppresses q = false := by
      unfold Dispatcher.suppresses
      rw [ha.origin]
      rfl
    obtain ⟨x, hx, hd⟩ := r.dispatcher.dispatch_complete _ w.render hgo ((mem_requests_iff (hasks w rfl)).mpr hq) hs
    exact ⟨x, hx, q, ha.action, rfl, hd.name, hd.sink⟩

theorem deliveries_of_fails {stop : Stop} (hf : r.Fails h stop) :
    r.deliveries h = [] ∧ (r.run h).2 = some stop := by
  have hp := prepare_of_fails r h hf
  unfold deliveries recorded runWith run
  generalize r.prepare h = o at hp
  obtain ⟨h', e⟩ := o
  obtain rfl : e = _ := hp
  exact ⟨rfl, rfl⟩

/-- Without permission from the command line, directives may neither write files nor run commands. -/
theorem policy_of_not_allowed (ha : r.allowAll = false) (ho : r.allowOutput = false) (hp : r.allowPipe = false) :
    r.policy.output = false ∧ r.policy.pipe = false := by
  unfold policy
  rw [ha, ho, hp]
  cases r.suppressAll <;> exact ⟨rfl, rfl⟩

end Run

end Command

/-! ## The main statement -/

open Command in
/-- A run hands texts to sinks, and logs; nothing else happens. If its policy does not allow directives to write files
(or to run commands), then each text that goes to a file (or to a command) does so because of a pair of the command line
with that name and that target. With no permission and no pair all texts go to the standard output, and the files are as
they were, except the one to which records are appended. A run that is not stopped does what each pair says. A malformed
pair makes the run fail, and a run whose settings, pairs, sources or expansion fail delivers nothing and is stopped with
that failure. -/
theorem run_permission (r : Run) (h : Host) :
    r.run h = ((r.recorded h).1.1, (r.recorded h).2) ∧ h.Performs (r.deliveries h) (r.run h).1 ∧
    (r.policy.output = false → ∀ x ∈ r.deliveries h, ∀ path skip, x.sink = .file path skip →
      ∃ kind, r.FromPair h .output path kind x) ∧
    (r.policy.pipe = false → ∀ x ∈ r.deliveries h, ∀ command shell, x.sink = .pipe command shell →
      ∃ kind, r.FromPair h .pipe command kind x) ∧
    (r.allowAll = false → r.allowOutput = false → r.allowPipe = false →
      (∀ kind, r.pairs .output kind = [] ∧ r.pairs .pipe kind = []) →
      (∀ x ∈ r.deliveries h, x.sink = .console) ∧ h.KeepsFiles (r.run h).1) ∧
    ((r.run h).2 = none → ∀ kind pair name target, Run.splitPair? pair = some (name, target) →
      (pair ∈ r.pairs .output kind → ∃ x ∈ r.deliveries h, x.sink = .file target r.skipUnchanged ∧ x.name = name) ∧
      (pair ∈ r.pairs .pipe kind → ∃ x ∈ r.deliveries h, x.sink = .pipe target r.shell ∧ x.name = name)) ∧
    (∀ action kind, ∀ pair ∈ r.pairs action kind, Run.splitPair? pair = none → ∃ stop, r.Fails h stop) ∧
    (∀ stop, r.Fails h stop → r.deliveries h = [] ∧ h.OnlyLogs (r.run h).1 ∧ (r.run h).2 = some stop) := by
  have houtput : r.policy.output = false → ∀ x ∈ r.deliveries h, ∀ path skip, x.sink = .file path skip →
      ∃ kind, r.FromPair h .output path kind x := fun hp x hx path skip hs =>
    Run.fromPair_of_delivery hx (fun q hq => Dispatcher.of_sink_eq_file (hq.symm.trans hs)) (by decide) hp
  have hpipe : r.policy.pipe = false → ∀ x ∈ r.deliveries h, ∀ command shell, x.sink = .pipe command shell →
      ∃ kind, r.FromPair h .pipe command kind x := fun hp x hx command shell hs =>
    Run.fromPair_of_delivery hx (fun q hq => Dispatcher.of_sink_eq_pipe (hq.symm.trans hs)) (by decide) hp
  have hperforms := r.run_performs h
  refine ⟨r.run_eq_recorded h, hperforms, houtput, hpipe, ?_, ?_, ?_, ?_⟩
  · intro hall hout hpip hnone
    have hpolicy := Run.policy_of_not_allowed hall hout hpip
    have hconsole : ∀ x ∈ r.deliveries h, x.sink = .console := by
      intro x hx
      cases hs : x.sink with
      | console => rfl
      | file path skip =>
        obtain ⟨kind, ⟨pair, hm, -⟩, -⟩ := houtput hpolicy.1 x hx path skip hs
        rw [(hnone kind).1] at hm
        exact absurd hm List.not_mem_nil
      | pipe command shell =>
        obtain ⟨kind, ⟨pair, hm, -⟩, -⟩ := hpipe hpolicy.2 x hx command shell hs
        rw [(hnone kind).2] at hm
        exact absurd hm List.not_mem_nil
    exact ⟨hconsole, hperforms.keepsFiles hconsole⟩
  · intro hgo kind pair name target hp
    refine ⟨fun hm => ?_, fun hm => ?_⟩
    · obtain ⟨x, hx, q, ha, ht, hn, hs⟩ := Run.exists_delivery hgo hm hp
      exact ⟨x, hx, hs.trans (by rw [Dispatcher.sink, ha, ht]; rfl), hn⟩
    · obtain ⟨x, hx, q, ha, ht, hn, hs⟩ := Run.exists_delivery hgo hm hp
      exact ⟨x, hx, hs.trans (by rw [Dispatcher.sink, ha, ht]; rfl), hn⟩
  · exact fun action kind pair hm hp => r.fails_of_pair h hm hp
  · intro stop hf
    obtain ⟨hnone, hstop⟩ := Run.deliveries_of_fails hf
    exact ⟨hnone, (hnone ▸ hperforms).onlyLogs, hstop⟩

/-- A host with a document that asks for a file. -/
def askingHost : Host := { stdin := "=begin litweb\n=begin_chunk a\nx\n=end_chunk a\n=output_chunk a stolen\n" }

/-- A host with a document that asks for nothing. -/
def plainHost : Host := { stdin := "=begin litweb\n=begin_chunk a\nx\n=end_chunk a\n" }

open Command in
/-- A document does not get its file, the command line does, and a pair without a value stops the run. -/
theorem run_permission_kept :
    askingHost.KeepsFiles (({} : Run).run askingHost).1 ∧
    (∃ kind, ({ outputChunk := ["a=kept"] } : Run).FromPair plainHost .output "kept" kind
      ⟨.file "kept" false, "a", "x\n"⟩) ∧
    ({ outputChunk := ["a"] } : Run).deliveries plainHost = [] := by
  obtain ⟨-, -, -, -, hkeeps, -, -, -⟩ := run_permission {} askingHost
  obtain ⟨-, -, houtput, -, -, -, -, -⟩ := run_permission { outputChunk := ["a=kept"] } plainHost
  obtain ⟨-, -, -, -, -, -, hmalformed, hfails⟩ := run_permission { outputChunk := ["a"] } plainHost
  refine ⟨(hkeeps rfl rfl rfl fun kind => by cases kind <;> exact ⟨rfl, rfl⟩).2, ?_, ?_⟩
  · have hdeliveries : ({ outputChunk := ["a=kept"] } : Run).deliveries plainHost =
        [⟨.file "kept" false, "a", "x\n"⟩] := by decide +kernel
    exact houtput rfl _ (hdeliveries ▸ List.mem_cons_self) _ _ rfl
  · obtain ⟨stop, hf⟩ := hmalformed .output .chunk "a" List.mem_cons_self (by decide)
    exact (hfails stop hf).1

end Literate
