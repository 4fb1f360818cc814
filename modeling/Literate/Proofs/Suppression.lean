import Literate.Proofs.Deliveries

/-!
# What a policy leaves of a run

A policy takes requests out of a run and changes nothing else about it. A dispatcher is compared with a run that knows
neither policies nor a log (`Sinks.handOver`): it renders what each request asks for, hands the text to its sink, and
goes on until a rendering or a sink fails. On the requests that the policy permits, this is what the dispatcher does
(`Dispatcher.dispatch_permitted`), for all sinks, however they behave, and for all ways of rendering.
-/

namespace Literate

open Text Log

/-! ## Runs without a policy -/

/-- How sinks behave: what they do with a text that is handed to them under a name, and whether they take it. -/
abbrev Sinks (σ : Type) := σ → Sink → Text → Text → σ × Option Stop

/-- What a run has led to: the state of the sinks, all that was handed to them, and why the run was stopped, if it
was. -/
structure Handover (σ : Type) where
  sinks : σ
  deliveries : List Delivery
  stop : Option Stop

namespace Handover

variable {σ : Type}

/-- A run in which something is handed over first. -/
def deliver (x : Delivery) (h : Handover σ) : Handover σ := { h with deliveries := x :: h.deliveries }

end Handover

namespace Sinks

variable {σ κ : Type}

/-- Sinks beside a log that none of them reads. -/
def effects (sinks : Sinks σ) (say : κ → Level → Text → List Attr → κ) : Effects (κ × σ) where
  say s level text attrs := (say s.1 level text attrs, s.2)
  write s sink name text :=
    let o := sinks s.2 sink name text
    ((s.1, o.1), o.2)

/-- Requests are run in order: the text of each is rendered and then handed to its sink, up to the first whose rendering
or sink fails. -/
def handOver (sinks : Sinks σ) (sink : Request → Sink) (render : Ref → Except Stop Text) :
    σ → List Request → Handover σ
  | s, [] => ⟨s, [], none⟩
  | s, q :: rest =>
    match render q.ref with
    | .error stop => ⟨s, [], some stop⟩
    | .ok text =>
      match sinks s (sink q) q.ref.name text with
      | (s, some stop) => ⟨s, [⟨sink q, q.ref.name, text⟩], some stop⟩
      | (s, none) => (sinks.handOver sink render s rest).deliver ⟨sink q, q.ref.name, text⟩

end Sinks

/-! ## Runs under a policy -/

namespace Dispatcher

/-- The requests of a list that are not directives' requests for a forbidden action. -/
def permitted (d : Dispatcher) (requests : List Request) : List Request :=
  requests.filter fun q => ¬(q.origin = .directive ∧ ¬d.policy.Permits q.action)

variable (d : Dispatcher)

theorem suppresses_eq_true_iff {q : Request} :
    d.suppresses q = true ↔ q.origin = .directive ∧ ¬d.policy.Permits q.action := by
  unfold suppresses
  rw [Bool.and_eq_true, decide_eq_true_iff, Bool.not_eq_true', ← d.policy.allows_iff, Bool.not_eq_true]

theorem permitted_cons_of_suppresses {q : Request} (hs : d.suppresses q = true) (rest : List Request) :
    d.permitted (q :: rest) = d.permitted rest :=
  List.filter_cons_of_neg (by simpa using d.suppresses_eq_true_iff.mp hs)

theorem permitted_cons_of_not_suppresses {q : Request} (hs : d.suppresses q = false) (rest : List Request) :
    d.permitted (q :: rest) = q :: d.permitted rest := by
  refine List.filter_cons_of_pos (decide_eq_true fun hq => ?_)
  rw [d.suppresses_eq_true_iff.mpr hq] at hs
  exact nomatch hs

section Rendering

variable {τ : Type} (effects : Effects τ) {render render' : Ref → Except Stop Text}

/-- A text is rendered only for a request that is not suppressed. -/
theorem carryOut_congr (s : τ) {q : Request} (hq : d.suppresses q = false → render' q.ref = render q.ref) :
    d.carryOut effects render' true s q = d.carryOut effects render true s q := by
  cases hs : d.suppresses q with
  | true => rw [carryOut_of_suppresses _ _ _ _ hs, carryOut_of_suppresses _ _ _ _ hs]
  | false =>
    unfold carryOut
    rw [hq hs]

/-- What suppressed requests would render to makes no difference. -/
theorem dispatch_congr {requests : List Request} (h : ∀ q ∈ d.permitted requests, render' q.ref = render q.ref)
    (s : τ) : d.dispatch effects render' true s requests = d.dispatch effects render true s requests := by
  induction requests generalizing s with
  | nil => rfl
  | cons q rest ih =>
    have hq : d.suppresses q = false → render' q.ref = render q.ref := fun hs =>
      h q (by rw [d.permitted_cons_of_not_suppresses hs]; exact List.mem_cons_self)
    have hrest : ∀ p ∈ d.permitted rest, render' p.ref = render p.ref := fun p hp => by
      refine h p ?_
      cases hs : d.suppresses q with
      | true => rwa [d.permitted_cons_of_suppresses hs]
      | false => rw [d.permitted_cons_of_not_suppresses hs]; exact List.mem_cons_of_mem _ hp
    unfold dispatch
    rw [d.carryOut_congr effects s hq]
    generalize d.carryOut effects render true s q = o
    obtain ⟨s', _ | stop⟩ := o
    · exact ih hrest s'
    · rfl

/-- Some requests are carried out after others, unless these are stopped. -/
theorem dispatch_append (before after : List Request) (s : τ) :
    d.dispatch effects render true s (before ++ after) =
      match d.dispatch effects render true s before with
      | (s, some stop) => (s, some stop)
      | (s, none) => d.dispatch effects render true s after := by
  induction before generalizing s with
  | nil => rfl
  | cons q rest ih =>
    simp only [List.cons_append, dispatch]
    generalize d.carryOut effects render true s q = o
    obtain ⟨s', _ | stop⟩ := o
    · exact ih s'
    · rfl

/-- A request that cannot be rendered ends a run, and leaves all as the requests before it have left it. -/
theorem dispatch_of_unrendered {q : Request} (hs : d.suppresses q = false) {stop : Stop}
    (hr : render q.ref = .error stop) (before after : List Request) (s : τ) :
    d.dispatch effects render true s (before ++ q :: after) =
      ((d.dispatch effects render true s before).1, (d.dispatch effects render true s before).2.or (some stop)) := by
  rw [d.dispatch_append]
  generalize d.dispatch effects render true s before = o
  obtain ⟨s', _ | stop'⟩ := o
  · dsimp only
    unfold dispatch
    rw [carryOut_of_error _ _ _ _ hs hr]
    rfl
  · rfl

end Rendering

variable {σ κ : Type} (sinks : Sinks σ) (say : κ → Level → Text → List Attr → κ)

/-- A run under a policy is a run without one of what the policy permits. -/
theorem dispatch_handOver (render : Ref → Except Stop Text) (k : κ) (s : σ) (before : List Delivery)
    (requests : List Request) :
    let o := d.dispatch (sinks.effects say).recorded render true ((k, s), before) requests
    let run := sinks.handOver d.sink render s (d.permitted requests)
    o.1.1.2 = run.sinks ∧ o.1.2 = before ++ run.deliveries ∧ o.2 = run.stop := by
  induction requests generalizing k s before with
  | nil => exact ⟨rfl, (List.append_nil _).symm, rfl⟩
  | cons q rest ih =>
    unfold dispatch
    cases hs : d.suppresses q with
    | true =>
      rw [carryOut_of_suppresses _ _ _ _ hs, d.permitted_cons_of_suppresses hs]
      exact ih _ s before
    | false =>
      rw [d.permitted_cons_of_not_suppresses hs]
      unfold Sinks.handOver
      cases hr : render q.ref with
      | error stop =>
        rw [carryOut_of_error _ _ _ _ hs hr]
        exact ⟨rfl, (List.append_nil _).symm, rfl⟩
      | ok text =>
        rw [carryOut_of_ok _ _ _ _ hs hr]
        simp only [Effects.recorded, Sinks.effects]
        -- What the sink answers does not depend on what was logged.
        generalize sinks s (d.sink q) q.ref.name text = answer
        obtain ⟨s', _ | stop⟩ := answer
        · obtain ⟨hsinks, hdeliveries, hstop⟩ := ih (say k .debug "dispatch" (requestAttrs q)) s'
            (before ++ [⟨d.sink q, q.ref.name, text⟩])
          exact ⟨hsinks, hdeliveries.trans (List.append_assoc _ _ _), hstop⟩
        · exact ⟨rfl, rfl, rfl⟩

/-- **A policy takes requests out of a run and changes nothing else.** Texts go to the files and to the commands that are
the targets of their requests, or to the standard output. The record that is kept of a run says what the run does. The
sinks end up, the deliveries follow one another, and the run is stopped as if only the requests that are permitted had
been run, each with its rendered text, up to the first whose rendering or sink fails. What the others would render to
makes no difference. And if one cannot be rendered, nothing is handed over or logged any more. -/
theorem dispatch_permitted (render : Ref → Except Stop Text) (k : κ) (s : σ) (requests : List Request) :
    let run := fun render requests => d.dispatch (sinks.effects say).recorded render true ((k, s), []) requests
    let o := run render requests
    Routes d.shell d.skipUnchanged d.sink ∧
      d.dispatch (sinks.effects say) render true (k, s) requests = (o.1.1, o.2) ∧
      (⟨o.1.1.2, o.1.2, o.2⟩ : Handover σ) = sinks.handOver d.sink render s (d.permitted requests) ∧
      (∀ render', (∀ q ∈ d.permitted requests, render' q.ref = render q.ref) → run render' requests = o) ∧
      ∀ before q after stop, requests = before ++ q :: after →
        ¬(q.origin = .directive ∧ ¬d.policy.Permits q.action) → render q.ref = .error stop →
        o = ((run render before).1, (run render before).2.or (some stop)) := by
  intro run o
  obtain ⟨hsinks, hdeliveries, hstop⟩ := d.dispatch_handOver sinks say render k s [] requests
  refine ⟨d.routes_sink, d.dispatch_recorded _ render ((k, s), []) requests, ?_, fun render' h => d.dispatch_congr _ h _, ?_⟩
  · rw [hsinks, hdeliveries, hstop, List.nil_append]
  · rintro before q after stop rfl hq hr
    have hs : d.suppresses q = false := Bool.eq_false_iff.mpr fun hs => hq (d.suppresses_eq_true_iff.mp hs)
    exact d.dispatch_of_unrendered _ hs hr before after _

end Dispatcher

end Literate
