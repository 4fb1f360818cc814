import Literate.Proofs.Permission

/-!
# The agenda of a run

A run has an agenda (`Command.Run.agenda`): group by group, first what the command line asks for, in the order of its
flags, and then what directives ask for, in the order in which the documents are read, if the policy allows it. A display
is on the agenda once for each reference, and that of the command line goes first.

What a run carries out is its agenda: the requests of the prepared web that are not suppressed are those of the agenda
(`Command.Run.requests_eq_agenda`), whatever is displayed twice and whatever is suppressed. The main statement is
`run_agenda`.
-/

namespace Literate

open Text Log

/-! ## What documents ask for -/

/-- The request that an item makes, if it makes one. -/
def Item.request? : Item → Option Request
  | requested q => some q
  | _ => none

/-- Items queue the requests that they make, in their order. -/
theorem Web.queue_replay (w : Web) (items : List Item) :
    (w.replay items).queue = (items.filterMap Item.request?).foldl Request.enqueue w.queue := by
  induction items generalizing w with
  | nil => rfl
  | cons i items ih =>
    rw [show w.replay (i :: items) = (i.enact w).replay items from rfl, ih]
    cases i <;> rfl

/-- Reading calls queue the requests of their history. -/
theorem Web.queue_read (settings : Settings) (readings : List Reading) {w : Web} (hw : w.expanded = false) :
    (w.read settings readings).queue =
      ((Reading.history settings w.control readings).filterMap Item.request?).foldl Request.enqueue w.queue := by
  obtain ⟨c, hc⟩ := Web.read_eq settings readings hw
  rw [hc]
  exact Web.queue_replay w _

namespace Command

/-- The calls that read sources, one after another, up to the first that fails. -/
def Input.readings (settings : Settings) : Host → Web → List InputSource → List Reading
  | _, _, [] => []
  | h, w, source :: rest =>
    match openSource h source with
    | .error _ => []
    | .ok text =>
      let o := w.parse settings h.disk.library true source.name text
      .parse h.disk.library true source.name text ::
        if o.2.isSome then [] else readings settings (replay h o.1.events) o.1.web rest

theorem Input.readAll_eq_read (settings : Settings) (h : Host) (w : Web) (sources : List InputSource) :
    (readAll settings h w sources).2.1 = w.read settings (readings settings h w sources) := by
  induction sources generalizing h w with
  | nil => rfl
  | cons source rest ih =>
    unfold readAll readings
    cases openSource h source with
    | error f => rfl
    | ok text =>
      dsimp only
      rw [show ∀ more, w.read settings (.parse h.disk.library true source.name text :: more) =
        (w.parse settings h.disk.library true source.name text).1.web.read settings more from fun _ => rfl]
      generalize w.parse settings h.disk.library true source.name text = o
      obtain ⟨s, _ | stop⟩ := o
      · exact ih (replay h s.events) s.web
      · rfl

/-- The command reads documents only. -/
theorem Input.not_mem_readings (settings : Settings) (h : Host) (w : Web) (sources : List InputSource) (q : Request) :
    .request q ∉ readings settings h w sources := by
  induction sources generalizing h w with
  | nil => exact List.not_mem_nil
  | cons source rest ih =>
    unfold readings
    cases openSource h source with
    | error f => exact List.not_mem_nil
    | ok text =>
      dsimp only
      split
      · exact fun hm => nomatch List.mem_singleton.mp hm
      · exact fun hm => (List.mem_cons.mp hm).elim (fun he => nomatch he) (ih _ _)

/-- Queueing requests changes nothing but the queue. -/
theorem foldl_request (requests : List Request) (w : Web) :
    requests.foldl Web.request w = { w with queue := requests.foldl Request.enqueue w.queue } := by
  induction requests generalizing w with
  | nil => rfl
  | cons q rest ih => exact ih (w.request q)

namespace Run

variable (r : Run) (h : Host)

/-- What the directives of documents ask for, in the order in which the documents are read. -/
def directives : List Request :=
  match r.input.settings h with
  | (_, .error _) => []
  | (h, .ok settings) =>
    match r.requests, InputSource.resolve h.disk.identify none r.input.sources with
    | .ok requests, .ok sources =>
      (Reading.history settings Web.empty.control
        (Input.readings settings h (requests.foldl Web.request .empty) sources)).filterMap Item.request?
    | _, _ => []

theorem directives_directed : ∀ q ∈ r.directives h, q.IsDirected := by
  intro q hq
  unfold directives at hq
  split at hq
  · exact absurd hq List.not_mem_nil
  · split at hq
    · obtain ⟨i, hi, he⟩ := List.mem_filterMap.mp hq
      have hall := Reading.history_items _ rule_directed _ (fun q hm => absurd hm (Input.not_mem_readings _ _ _ _ q)) i hi
      cases i with
      | requested p => exact hall q (congrArg _ (Option.some.inj he))
      | _ => exact nomatch he
    · exact absurd hq List.not_mem_nil

variable {r} in
/-- Reading queues what directives ask for, after the requests of the command line. -/
theorem queue_reading {settings : Settings} {requests : List Request} (hs : (r.input.settings h).2 = .ok settings)
    (hr : r.requests = .ok requests) :
    (r.reading h settings requests).2.1.queue = (requests ++ r.directives h).foldl Request.enqueue #[] := by
  unfold reading directives Input.read
  rcases hsettings : r.input.settings h with ⟨h₁, e⟩
  rw [hsettings] at hs
  obtain rfl : e = _ := hs
  dsimp only
  rw [hr, List.foldl_append]
  cases InputSource.resolve h₁.disk.identify none r.input.sources with
  | error f =>
    rw [foldl_request]
    rfl
  | ok sources =>
    dsimp only
    rw [Input.readAll_eq_read, Web.queue_read _ _ (by rw [foldl_request]; rfl)]
    simp only [foldl_request]
    rfl

variable {r} in
/-- **The queue of a prepared web**: what the command line asks for, and then what directives ask for. -/
theorem queue_prepare {w : Web} (hw : (r.prepare h).2 = .ok w) :
    w.queue = (flagOrder.flatMap r.flagged ++ r.directives h).foldl Request.enqueue #[] := by
  obtain ⟨_, ⟨stop, hp, _⟩ | ⟨settings, requests, hs, hr, hp⟩⟩ := r.prepare_cases h
  · exact nomatch hp.symm.trans hw
  · obtain rfl := Except.ok.inj (hp.symm.trans hw)
    have hread := r.reading_reads h settings hr
    rw [(Web.expandAll_spec settings none hread.expanded hread.guard).frame]
    show (r.reading h settings requests).2.1.queue = _
    rw [queue_reading h hs hr, ← (requests_eq hr).1]

/-! ## The agenda -/

/-- What the command line asks for in a group, in the order of its flags. -/
def commanded (g : Action × Kind) : List Request := Request.kept g (r.flagged g)

/-- What directives ask for in a group, in the order in which the documents are read, without displays of what the
command line displays. -/
def directed (g : Action × Kind) : List Request :=
  (Request.kept g ((r.directives h).filter (·.place = g))).filter fun q =>
    ¬(g.1 = .display ∧ q.ref.name ∈ r.displayed g.2)

/-- What a run is to carry out: in each group what the command line asks for, and then what directives ask for if the
policy allows it. -/
def agenda : List Request :=
  Request.groups.flatMap fun g => r.commanded g ++ if r.policy.Permits g.1 then r.directed h g else []

theorem origin_of_mem_commanded {g : Action × Kind} : ∀ q ∈ r.commanded g, q.origin = .command := fun q hq =>
  (place_of_mem_flagged g q ((Request.kept_sublist g _).subset hq)).2.origin

theorem of_mem_directed {g : Action × Kind} : ∀ q ∈ r.directed h g, q.origin = .directive ∧ q.action = g.1 := by
  intro q hq
  have hq := List.mem_filter.mp ((Request.kept_sublist g _).subset (List.mem_filter.mp hq).1)
  exact ⟨(r.directives_directed h q hq.1).origin, congrArg Prod.fst (of_decide_eq_true hq.2)⟩

theorem mem_flagged_display_iff (ref : Ref) :
    ref ∈ (r.flagged (.display, ref.kind)).map (·.ref) ↔ ref.name ∈ r.displayed ref.kind := by
  simp only [flagged, List.map_map, List.mem_map, Function.comp]
  constructor
  · rintro ⟨name, hm, he⟩
    exact he ▸ hm
  · exact fun hm => ⟨ref.name, hm, rfl⟩

/-- What is kept of a group: displays of the command line stand for those of directives. -/
theorem kept_eq {g : Action × Kind} (hg : g ∈ flagOrder) :
    Request.kept g ((flagOrder.flatMap r.flagged ++ r.directives h).filter (·.place = g)) =
      r.commanded g ++ r.directed h g := by
  rw [List.filter_append, Request.filter_flatMap_place (by decide) (fun g q hq => (place_of_mem_flagged g q hq).1) hg,
    Request.kept_append]
  refine congrArg (r.commanded g ++ ·) (List.filter_congr fun q hq => ?_)
  have hq := (List.mem_filter.mp ((Request.kept_sublist g _).subset hq)).2
  refine decide_eq_decide.mpr (not_congr (and_congr_right fun hd => ?_))
  obtain ⟨action, kind⟩ := g
  obtain rfl : action = .display := hd
  obtain rfl : q.ref.kind = kind := congrArg Prod.snd (of_decide_eq_true hq)
  exact mem_flagged_display_iff r q.ref

/-- **What a run does not suppress is its agenda.** -/
theorem requests_eq_agenda {w : Web} (hw : (r.prepare h).2 = .ok w) :
    w.requests.filter (!r.dispatcher.suppresses ·) = r.agenda h := by
  have hplace : ∀ q ∈ flagOrder.flatMap r.flagged ++ r.directives h, q.place ∈ Request.groups := by
    intro q hq
    rcases List.mem_append.mp hq with hq | hq
    · obtain ⟨g, hg, hq⟩ := List.mem_flatMap.mp hq
      have hall : ∀ g ∈ flagOrder, g ∈ Request.groups := by decide
      exact (place_of_mem_flagged g q hq).1 ▸ hall g hg
    · exact Request.place_mem_groups (r.directives_directed h q hq).action
  have hflag : ∀ g ∈ Request.groups, g ∈ flagOrder := by decide
  unfold Web.requests agenda
  rw [queue_prepare h hw, Request.arrange_queue hplace, List.filter_flatMap]
  refine List.flatMap_congr fun g hg => ?_
  have hcommanded : (r.commanded g).filter (!r.dispatcher.suppresses ·) = r.commanded g := by
    refine List.filter_eq_self.mpr fun q hq => ?_
    simp [Dispatcher.suppresses, r.origin_of_mem_commanded q hq]
  have hdirected : (r.directed h g).filter (!r.dispatcher.suppresses ·) =
      if r.policy.Permits g.1 then r.directed h g else [] := by
    have hs : ∀ q ∈ r.directed h g, (!r.dispatcher.suppresses q) = decide (r.policy.Permits g.1) := by
      intro q hq
      obtain ⟨ho, ha⟩ := r.of_mem_directed h q hq
      simp [Dispatcher.suppresses, ho, ha, dispatcher, ← Policy.allows_iff]
    rw [List.filter_congr hs]
    by_cases hp : r.policy.Permits g.1 <;> simp [hp]
  rw [r.kept_eq h (hflag g hg), List.filter_append, hcommanded, hdirected]

/-- What is on the agenda of one group. -/
theorem filter_agenda {g : Action × Kind} (hg : g ∈ Request.groups) : (r.agenda h).filter (·.place = g) =
    r.commanded g ++ if r.policy.Permits g.1 then r.directed h g else [] := by
  refine Request.filter_flatMap_place (by decide) (fun g q hq => ?_) hg
  have hcommanded : q ∈ r.commanded g → q.place = g := fun hq =>
    (place_of_mem_flagged g q ((Request.kept_sublist g _).subset hq)).1
  have hdirected : q ∈ r.directed h g → q.place = g := fun hq =>
    of_decide_eq_true (List.mem_filter.mp ((Request.kept_sublist g _).subset (List.mem_filter.mp hq).1)).2
  rcases List.mem_append.mp hq with hq | hq
  · exact hcommanded hq
  · split at hq
    · exact hdirected hq
    · exact absurd hq List.not_mem_nil

theorem countP_commanded (ref : Ref) : (r.commanded (.display, ref.kind)).countP (·.ref = ref) =
    if ref.name ∈ r.displayed ref.kind then 1 else 0 :=
  (Request.countP_firsts ref _).trans (if_congr (r.mem_flagged_display_iff ref) rfl rfl)

theorem countP_directed (ref : Ref) : (r.directed h (.display, ref.kind)).countP (·.ref = ref) =
    if ref.name ∈ r.displayed ref.kind then 0 else if (r.directives h).any (·.displays ref) then 1 else 0 := by
  unfold directed
  rw [List.countP_filter]
  split
  · rename_i hm
    refine List.countP_eq_zero.mpr fun q _ => ?_
    by_cases hq : q.ref = ref
    · simp [hq, hm]
    · simp [hq]
  · rename_i hm
    refine (List.countP_congr fun q _ => ?_).trans ((Request.countP_firsts ref _).trans
      (if_congr (Request.any_displays_iff _ ref).symm rfl rfl))
    by_cases hq : q.ref = ref
    · simp [hq, hm]
    · simp [hq]

/-- **Each reference is displayed once or not at all**: once if the command line asks for it, and otherwise if a directive
asks for it and the policy allows this. -/
theorem countP_agenda (ref : Ref) : (r.agenda h).countP (·.displays ref) =
    if ref.name ∈ r.displayed ref.kind then 1
    else if r.policy.display ∧ (r.directives h).any (·.displays ref) then 1 else 0 := by
  have hgroup : (.display, ref.kind) ∈ Request.groups := by cases ref.kind <;> decide
  have hsplit : (r.agenda h).countP (·.displays ref) =
      ((r.agenda h).filter (·.place = (.display, ref.kind))).countP (·.ref = ref) := by
    rw [List.countP_filter]
    refine List.countP_congr fun q _ => ?_
    simp only [Request.displays, Request.place, decide_eq_true_eq, Prod.mk.injEq, Bool.and_eq_true]
    constructor
    · rintro ⟨ha, rfl⟩
      exact ⟨rfl, ha, rfl⟩
    · rintro ⟨rfl, ha, -⟩
      exact ⟨ha, rfl⟩
  rw [hsplit, r.filter_agenda h hgroup, List.countP_append, r.countP_commanded]
  have hpermits : r.policy.Permits .display ↔ r.policy.display = true := (r.policy.allows_iff .display).symm
  cases hp : r.policy.display with
  | false => simp [hpermits, hp]
  | true =>
    simp only [hpermits, hp, if_true, r.countP_directed h, true_and]
    split
    · rfl
    · exact Nat.zero_add _

/-- Each pair of the command line is on the agenda as often as it was given, in this order, if none is malformed. -/
theorem map_commanded {requests : List Request} (hr : r.requests = .ok requests) {action : Action}
    (ha : action ≠ .display) (kind : Kind) :
    (r.pairs action kind).map (pairRequest? action kind) = (r.commanded (action, kind)).map some := by
  refine ((requests_eq hr).2 action kind).trans (congrArg _ ?_)
  unfold commanded Request.kept
  rw [if_neg ha]
  cases action with
  | display => exact absurd rfl ha
  | _ => rfl

end Run

end Command

/-! ## The main statement -/

open Command in
/-- **A run carries out its agenda.** Either the run fails before its requests are carried out, because of its settings,
of a malformed pair, or of what it reads, or all of the following holds of the web that it has prepared. The requests that
are not suppressed are those of the agenda: in each of six groups what the command line asks for, whatever the policy is,
and then what directives ask for, if the policy allows it, in the order of the documents. What is to be displayed goes to
the standard output, what is to be written to the file that is named, and what is to be piped to the command. The requests
are carried out one after another. If none of them fails, each is delivered with its text, in this order, and each text is
printed, stands in its file, or has been read by its command. Nothing else happens. Each pair of the command line is
carried out as often as it was given. A reference is displayed once if the command line asks for it, and otherwise once if
a directive asks for it and the policy allows this, and not at all if neither is so. -/
theorem run_agenda (r : Run) (h : Host) :
    (∃ stop, r.Fails h stop ∧ (r.run h).2 = some stop) ∨ ∃ w, (r.prepare h).2 = .ok w ∧
      w.requests.filter (!r.dispatcher.suppresses ·) = r.agenda h ∧
      Routes r.shell r.skipUnchanged r.dispatcher.sink ∧
      r.dispatcher.CarriesOut (Host.effects true) w.render (r.agenda h) (r.deliveries h) (r.run h).2 ∧
      ((r.run h).2 = none → List.Forall₂ (r.dispatcher.Delivers w.render) (r.agenda h) (r.deliveries h) ∧
        h.Undergoes (r.deliveries h) (r.run h).1) ∧
      h.Performs (r.deliveries h) (r.run h).1 ∧
      (∀ action kind, action ≠ .display →
        (r.pairs action kind).map (Run.pairRequest? action kind) = (r.commanded (action, kind)).map some) ∧
      ∀ ref, (r.agenda h).countP (·.displays ref) =
        if ref.name ∈ r.displayed ref.kind then 1
        else if r.policy.display ∧ (r.directives h).any (·.displays ref) then 1 else 0 := by
  obtain ⟨_, ⟨stop, _, hf⟩ | ⟨settings, requests, _, hr, hp⟩⟩ := r.prepare_cases h
  · exact .inl ⟨stop, hf, (Run.deliveries_of_fails hf).2⟩
  · generalize ((r.reading h settings requests).2.1.expandAll settings none).1.web = w at hp
    have hagenda := r.requests_eq_agenda h hp
    have hcarries : r.dispatcher.CarriesOut (Host.effects true) w.render (r.agenda h) (r.deliveries h) (r.run h).2 := by
      rw [r.run_eq_recorded h, ← hagenda]
      unfold Run.deliveries Run.recorded Run.runWith
      generalize r.prepare h = o at hp
      obtain ⟨h', e⟩ := o
      obtain rfl : e = _ := hp
      obtain ⟨deliveries, ho, hc⟩ := r.dispatcher.dispatch_carriesOut (Host.effects true) w.render _ [] w.requests
      exact ho ▸ hc
    refine .inr ⟨w, hp, hagenda, r.dispatcher.routes_sink, hcarries, fun hgo => ⟨?_, r.run_undergoes h hgo⟩,
      r.run_performs h, fun action kind ha => r.map_commanded hr ha kind, r.countP_agenda h⟩
    rw [hgo] at hcarries
    exact hcarries.forall₂

/-- A host with a document that displays a chunk. -/
def displayingHost : Host := { stdin := "=begin litweb\n=begin_chunk a\nx\n=end_chunk a\n=display_chunk a\n" }

open Command in
/-- The command line displays the chunk twice, and suppresses what the directive says: it is displayed once. -/
theorem run_agenda_suppressed :
    let r : Run := { displayChunk := ["a", "a"], suppressAll := true }
    (r.run displayingHost).2 = none ∧ (r.agenda displayingHost).countP (·.displays ⟨.chunk, "a"⟩) = 1 ∧
      (∃ w : Web, List.Forall₂ (r.dispatcher.Delivers w.render) (r.agenda displayingHost) [⟨.console, "a", "x\n"⟩]) ∧
      (r.run displayingHost).1.stdout = "x\n" := by
  intro r
  have hgo : (r.run displayingHost).2 = none := Option.isNone_iff_eq_none.mp (by decide +kernel)
  have hdeliveries : r.deliveries displayingHost = [⟨.console, "a", "x\n"⟩] := by decide +kernel
  obtain ⟨stop, -, hstop⟩ | ⟨w, -, -, -, -, hall, -, -, hcount⟩ := run_agenda r displayingHost
  · exact nomatch hgo.symm.trans hstop
  · obtain ⟨hdelivers, hundergoes⟩ := hall hgo
    rw [hdeliveries] at hdelivers hundergoes
    refine ⟨hgo, (hcount ⟨.chunk, "a"⟩).trans (by decide), ⟨w, hdelivers⟩, hundergoes.stdout_eq fun x hx _ _ => ?_⟩
    obtain rfl := List.mem_singleton.mp hx
    exact fun hsink => nomatch hsink

end Literate
