import Literate.Dispatch
import Literate.Proofs.Sinks
import Mathlib.Data.List.Forall2

/-!
# Deliveries

Apart from logging, a dispatcher acts by handing texts to sinks. Effects can keep a record of these deliveries
(`Effects.recorded`), and this changes nothing about what they do (`Dispatcher.dispatch_recorded`). The record is what
the requests ask for that are not suppressed, one after another, up to the first that fails
(`Dispatcher.dispatch_carriesOut`), and whatever has happened to a host is explained by it
(`Dispatcher.dispatch_performs`). If none of them fails, then each sink has taken its text (`Dispatcher.dispatch_undergoes`).
-/

namespace Literate

open Text Log

/-! ## What is delivered -/

/-- A text that is handed to a sink, under the name of the chunk or stream it comes from. -/
structure Delivery where
  sink : Sink
  name : Text
  text : Text
deriving DecidableEq

/-- Effects on a state and on the record of what has been delivered so far, whether or not its sink took it. -/
def Effects.recorded {σ : Type} (effects : Effects σ) : Effects (σ × List Delivery) where
  say s level text attrs := (effects.say s.1 level text attrs, s.2)
  write s sink name text :=
    let o := effects.write s.1 sink name text
    ((o.1, s.2 ++ [⟨sink, name, text⟩]), o.2)

/-- A host on which nothing has happened but that texts were delivered, and that messages were logged in between. -/
inductive Host.Performs (h : Host) : List Delivery → Host → Prop
  | logs {h' : Host} : h.OnlyLogs h' → h.Performs [] h'
  | deliver {deliveries : List Delivery} {x : Delivery} {h₁ h₂ : Host} : h.Performs deliveries h₁ →
      (x.sink.write true h₁ x.name x.text).1.OnlyLogs h₂ → h.Performs (deliveries ++ [x]) h₂

/-- A host on which texts were delivered to sinks, all of which took them, and messages were logged in between. Nothing
else has happened. -/
inductive Host.Undergoes (h : Host) : List Delivery → Host → Prop
  | logs {h' : Host} : h.OnlyLogs h' → h.Undergoes [] h'
  | deliver {deliveries : List Delivery} {x : Delivery} {h₁ h₂ h₃ : Host} : h.Undergoes deliveries h₁ →
      Sink.Takes x.text h₁ h₂ x.sink → h₂.OnlyLogs h₃ → h.Undergoes (deliveries ++ [x]) h₃

namespace Host.Undergoes

variable {h h' h'' : Host} {deliveries : List Delivery}

theorem logged (hu : h.Undergoes deliveries h') (hl : h'.OnlyLogs h'') : h.Undergoes deliveries h'' := by
  cases hu with
  | logs a => exact .logs (a.trans hl)
  | deliver hu ht a => exact .deliver hu ht (a.trans hl)

/-- Unless commands print something, what is printed are the texts that go to the standard output, in their order. -/
theorem stdout_eq (hu : h.Undergoes deliveries h')
    (hpipe : ∀ x ∈ deliveries, ∀ command shell, x.sink ≠ .pipe command shell) :
    h'.stdout = h.stdout ++ (deliveries.filter (·.sink = .console)).flatMap (·.text) := by
  induction hu with
  | logs a => exact a.stdout.trans (List.append_nil _).symm
  | @deliver deliveries x h₁ h₂ h₃ _ ht a ih =>
    have hold := ih fun y hy => hpipe y (List.mem_append_left _ hy)
    have hx := hpipe x (List.mem_append_right _ List.mem_cons_self)
    rw [a.stdout, List.filter_append, List.flatMap_append, ← List.append_assoc, ← hold]
    obtain ⟨sink, name, text⟩ := x
    cases ht with
    | console hh => rw [hh]; exact congrArg (h₁.stdout ++ ·) (List.append_nil _).symm
    | file _ _ _ _ _ hout _ => exact hout.trans (List.append_nil _).symm
    | unchanged _ _ _ hlogs => exact hlogs.stdout.trans (List.append_nil _).symm
    | pipe _ _ => exact absurd rfl (hx _ _)

end Host.Undergoes

namespace Host.Performs

variable {h h' h'' : Host} {deliveries : List Delivery}

theorem logged (hp : h.Performs deliveries h') (hl : h'.OnlyLogs h'') : h.Performs deliveries h'' := by
  cases hp with
  | logs a => exact .logs (a.trans hl)
  | deliver hp a => exact .deliver hp (a.trans hl)

theorem onlyLogs (hp : h.Performs [] h') : h.OnlyLogs h' := by
  generalize hn : ([] : List Delivery) = none at hp
  cases hp with
  | logs a => exact a
  | deliver _ _ => exact absurd hn.symm (List.append_ne_nil_of_right_ne_nil _ (List.cons_ne_nil _ _))

/-- What goes to the standard output changes no file. -/
theorem keepsFiles (hp : h.Performs deliveries h') (hc : ∀ x ∈ deliveries, x.sink = .console) : h.KeepsFiles h' := by
  induction hp with
  | logs a => exact a.toKeepsFiles
  | @deliver deliveries x h₁ h₂ _ a ih =>
    have hold := ih fun y hy => hc y (List.mem_append_left _ hy)
    rw [hc x (List.mem_append_right _ List.mem_cons_self)] at a
    exact (hold.trans (Sink.writeConsole_keepsFiles h₁ x.name x.text)).trans a.toKeepsFiles

end Host.Performs

/-! ## Where texts go -/

/-- The actions that a policy lets directives ask for. -/
inductive Policy.Permits (p : Policy) : Action → Prop
  | display : p.display = true → p.Permits .display
  | output : p.output = true → p.Permits .output
  | pipe : p.pipe = true → p.Permits .pipe

theorem Policy.allows_iff (p : Policy) (a : Action) : p.allows a = true ↔ p.Permits a := by
  constructor
  · intro h
    cases a with
    | display => exact .display h
    | output => exact .output h
    | pipe => exact .pipe h
    | other n => exact nomatch h
  · intro h
    cases h with
    | display h => exact h
    | output h => exact h
    | pipe h => exact h

instance (p : Policy) : DecidablePred p.Permits := fun a => decidable_of_iff _ (p.allows_iff a)

/-- What is to be written goes to the file that is the target, what is to be piped to the command that is, and all else to
the standard output. -/
structure Routes (shell : Text) (skipUnchanged : Bool) (sink : Request → Sink) : Prop where
  output : ∀ q, q.action = .output → sink q = .file q.target skipUnchanged
  pipe : ∀ q, q.action = .pipe → sink q = .pipe q.target shell
  other : ∀ q, q.action ≠ .output → q.action ≠ .pipe → sink q = .console

theorem Dispatcher.routes_sink (d : Dispatcher) : Routes d.shell d.skipUnchanged d.sink where
  output q hq := by rw [sink, hq]
  pipe q hq := by rw [sink, hq]
  other q houtput hpipe := by
    unfold sink
    split
    · exact absurd ‹_› houtput
    · exact absurd ‹_› hpipe
    · rfl

/-! ## Carrying out requests -/

namespace Dispatcher

theorem of_sink_eq_file {d : Dispatcher} {q : Request} {path : Text} {skip : Bool} (h : d.sink q = .file path skip) :
    q.action = .output ∧ q.target = path := by
  unfold sink at h
  cases ha : q.action with
  | output =>
    rw [ha] at h
    exact ⟨rfl, (Sink.file.inj h).1⟩
  | _ => rw [ha] at h; exact nomatch h

theorem of_sink_eq_pipe {d : Dispatcher} {q : Request} {command shell : Text} (h : d.sink q = .pipe command shell) :
    q.action = .pipe ∧ q.target = command := by
  unfold sink at h
  cases ha : q.action with
  | pipe =>
    rw [ha] at h
    exact ⟨rfl, (Sink.pipe.inj h).1⟩
  | _ => rw [ha] at h; exact nomatch h

variable {σ : Type} (d : Dispatcher) (effects : Effects σ) (render : Ref → Except Stop Text)

section One

variable (s : σ) {q : Request}

theorem carryOut_of_suppresses (hs : d.suppresses q = true) :
    d.carryOut effects render true s q = (effects.say s .debug "suppressed" (requestAttrs q), none) := by
  unfold carryOut
  rw [if_neg (by decide), if_pos hs]

theorem carryOut_of_error (hs : d.suppresses q = false) {stop : Stop} (hr : render q.ref = .error stop) :
    d.carryOut effects render true s q = (s, some stop) := by
  unfold carryOut
  rw [if_neg (by decide), if_neg (Bool.not_eq_true _ ▸ hs), hr]

theorem carryOut_of_ok (hs : d.suppresses q = false) {text : Text} (hr : render q.ref = .ok text) :
    d.carryOut effects render true s q =
      effects.write (effects.say s .debug "dispatch" (requestAttrs q)) (d.sink q) q.ref.name text := by
  unfold carryOut
  rw [if_neg (by decide), if_neg (Bool.not_eq_true _ ▸ hs), hr]

end One

/-- What carrying out any of the requests keeps, carrying out all of them keeps. -/
theorem dispatch_induction {requests : List Request} {motive : σ → Prop} {s : σ} (start : motive s)
    (step : ∀ s, motive s → ∀ q ∈ requests, motive (d.carryOut effects render true s q).1) :
    motive (d.dispatch effects render true s requests).1 := by
  induction requests generalizing s with
  | nil => exact start
  | cons q rest ih =>
    have hq := step s start q List.mem_cons_self
    unfold dispatch
    generalize d.carryOut effects render true s q = o at hq
    obtain ⟨s', _ | stop⟩ := o
    · exact ih hq fun s hs p hp => step s hs p (List.mem_cons_of_mem _ hp)
    · exact hq

theorem carryOut_recorded (s : σ × List Delivery) (q : Request) :
    let o := d.carryOut effects.recorded render true s q
    d.carryOut effects render true s.1 q = (o.1.1, o.2) := by
  cases hs : d.suppresses q with
  | true => rw [carryOut_of_suppresses _ _ _ _ hs, carryOut_of_suppresses _ _ _ _ hs]; rfl
  | false =>
    cases hr : render q.ref with
    | error stop => rw [carryOut_of_error _ _ _ _ hs hr, carryOut_of_error _ _ _ _ hs hr]
    | ok text => rw [carryOut_of_ok _ _ _ _ hs hr, carryOut_of_ok _ _ _ _ hs hr]; rfl

/-- To keep a record changes nothing else. -/
theorem dispatch_recorded (s : σ × List Delivery) (requests : List Request) :
    let o := d.dispatch effects.recorded render true s requests
    d.dispatch effects render true s.1 requests = (o.1.1, o.2) := by
  induction requests generalizing s with
  | nil => rfl
  | cons q rest ih =>
    have hq := d.carryOut_recorded effects render s q
    unfold dispatch
    generalize d.carryOut effects.recorded render true s q = o at hq ⊢
    obtain ⟨s', _ | stop⟩ := o
    · rw [hq]
      exact ih s'
    · rw [hq]

/-- A delivery that a request asks for. -/
structure Delivers (q : Request) (x : Delivery) : Prop where
  unsuppressed : d.suppresses q = false
  sink : x.sink = d.sink q
  name : x.name = q.ref.name
  text : render q.ref = .ok x.text

/-- Requests are carried out one after another, up to the first that fails: what they deliver, and why they are stopped,
if they are. A request fails if its text cannot be rendered, or if its sink does not take the text. -/
inductive CarriesOut : List Request → List Delivery → Option Stop → Prop
  | nil : CarriesOut [] [] none
  | deliver {q x rest xs stop} : d.Delivers render q x → CarriesOut rest xs stop → CarriesOut (q :: rest) (x :: xs) stop
  | unrendered {q rest stop} : render q.ref = .error stop → CarriesOut (q :: rest) [] (some stop)
  | refused {q x rest s stop} : d.Delivers render q x → (effects.write s x.sink x.name x.text).2 = some stop →
      CarriesOut (q :: rest) [x] (some stop)

namespace CarriesOut

variable {d effects render} {requests : List Request} {deliveries : List Delivery} {stop : Option Stop}

/-- All deliveries are what requests ask for. -/
theorem delivers (h : d.CarriesOut effects render requests deliveries stop) :
    ∀ x ∈ deliveries, ∃ q ∈ requests, d.Delivers render q x := by
  induction h with
  | nil => exact fun x hx => absurd hx List.not_mem_nil
  | @deliver q x _ _ _ hd _ ih =>
    intro y hy
    rcases List.mem_cons.mp hy with rfl | hy
    · exact ⟨q, List.mem_cons_self, hd⟩
    · obtain ⟨p, hp, hdp⟩ := ih y hy
      exact ⟨p, List.mem_cons_of_mem _ hp, hdp⟩
  | unrendered _ => exact fun x hx => absurd hx List.not_mem_nil
  | @refused q x _ _ _ hd _ =>
    intro y hy
    obtain rfl := List.mem_singleton.mp hy
    exact ⟨q, List.mem_cons_self, hd⟩

/-- Unless a request stops them, all are delivered, in their order. -/
theorem forall₂ (h : d.CarriesOut effects render requests deliveries none) :
    List.Forall₂ (d.Delivers render) requests deliveries := by
  generalize hn : (none : Option Stop) = stop at h
  induction h with
  | nil => exact .nil
  | deliver hd _ ih => exact .cons hd (ih hn)
  | unrendered _ => exact nomatch hn
  | refused _ _ => exact nomatch hn

end CarriesOut

/-- **A dispatcher carries out the requests that it does not suppress.** -/
theorem dispatch_carriesOut (s : σ) (before : List Delivery) (requests : List Request) :
    let o := d.dispatch effects.recorded render true (s, before) requests
    ∃ deliveries, o.1.2 = before ++ deliveries ∧
      d.CarriesOut effects render (requests.filter (!d.suppresses ·)) deliveries o.2 := by
  induction requests generalizing s before with
  | nil => exact ⟨[], (List.append_nil _).symm, .nil⟩
  | cons q rest ih =>
    unfold dispatch
    cases hs : d.suppresses q with
    | true =>
      rw [carryOut_of_suppresses _ _ _ _ hs, List.filter_cons_of_neg (by rw [hs]; decide)]
      exact ih _ before
    | false =>
      rw [List.filter_cons_of_pos (by rw [hs]; rfl)]
      cases hr : render q.ref with
      | error stop =>
        rw [carryOut_of_error _ _ _ _ hs hr]
        exact ⟨[], (List.append_nil _).symm, .unrendered hr⟩
      | ok text =>
        rw [carryOut_of_ok _ _ _ _ hs hr]
        have hd : d.Delivers render q ⟨d.sink q, q.ref.name, text⟩ := ⟨hs, rfl, rfl, hr⟩
        simp only [Effects.recorded]
        cases hw : (effects.write (effects.say s .debug "dispatch" (requestAttrs q)) (d.sink q) q.ref.name text).2 with
        | some stop => exact ⟨_, rfl, .refused hd hw⟩
        | none =>
          obtain ⟨deliveries, ho, hc⟩ := ih
            (effects.write (effects.say s .debug "dispatch" (requestAttrs q)) (d.sink q) q.ref.name text).1
            (before ++ [⟨d.sink q, q.ref.name, text⟩])
          exact ⟨_ :: deliveries, ho.trans (List.append_assoc _ _ _), .deliver hd hc⟩

/-- All deliveries are what requests ask for. -/
theorem dispatch_delivers (s : σ) (requests : List Request) :
    ∀ x ∈ (d.dispatch effects.recorded render true (s, []) requests).1.2, ∃ q ∈ requests, d.Delivers render q x := by
  obtain ⟨deliveries, ho, hc⟩ := d.dispatch_carriesOut effects render s [] requests
  rw [ho]
  intro x hx
  obtain ⟨q, hq, hd⟩ := hc.delivers x hx
  exact ⟨q, (List.mem_filter.mp hq).1, hd⟩

/-- Unless a request stops it, a dispatcher delivers all that is asked for and not suppressed. -/
theorem dispatch_complete {s : σ} {requests : List Request}
    (hgo : (d.dispatch effects.recorded render true (s, []) requests).2 = none) {q : Request} (hq : q ∈ requests)
    (hs : d.suppresses q = false) :
    ∃ x ∈ (d.dispatch effects.recorded render true (s, []) requests).1.2, d.Delivers render q x := by
  obtain ⟨deliveries, ho, hc⟩ := d.dispatch_carriesOut effects render s [] requests
  rw [hgo] at hc
  rw [ho]
  have hmem : q ∈ requests.filter (!d.suppresses ·) := List.mem_filter.mpr ⟨hq, by rw [hs]; rfl⟩
  obtain ⟨i, hi, rfl⟩ := List.mem_iff_getElem.mp hmem
  have hall := hc.forall₂
  have hi' : i < deliveries.length := hall.length_eq ▸ hi
  exact ⟨deliveries.get ⟨i, hi'⟩, List.get_mem _ _, hall.get hi hi'⟩

section Hosts

variable {h : Host} {s : Host × List Delivery} {q : Request} {requests : List Request}

theorem carryOut_performs (hs : h.Performs s.2 s.1) :
    let o := d.carryOut (Host.effects true).recorded render true s q
    h.Performs o.1.2 o.1.1 := by
  cases hsuppressed : d.suppresses q with
  | true =>
    rw [carryOut_of_suppresses _ _ _ _ hsuppressed]
    exact hs.logged (.say _ _ _ _)
  | false =>
    cases hr : render q.ref with
    | error stop =>
      rw [carryOut_of_error _ _ _ _ hsuppressed hr]
      exact hs
    | ok text =>
      rw [carryOut_of_ok _ _ _ _ hsuppressed hr]
      exact .deliver (x := ⟨d.sink q, q.ref.name, text⟩) (hs.logged (.say _ _ _ _)) (.refl _)

/-- What the record says is all that happens to a host. -/
theorem dispatch_performs {h' : Host} (hl : h.OnlyLogs h') (requests : List Request) :
    let o := d.dispatch (Host.effects true).recorded render true (h', []) requests
    h.Performs o.1.2 o.1.1 :=
  d.dispatch_induction (Host.effects true).recorded render (s := (h', [])) (motive := fun s => h.Performs s.2 s.1)
    (.logs hl) fun _ hs _ _ => d.carryOut_performs render hs

theorem carryOut_undergoes (hs : h.Undergoes s.2 s.1)
    (hgo : (d.carryOut (Host.effects true).recorded render true s q).2 = none) :
    let o := d.carryOut (Host.effects true).recorded render true s q
    h.Undergoes o.1.2 o.1.1 := by
  cases hsuppressed : d.suppresses q with
  | true =>
    rw [carryOut_of_suppresses _ _ _ _ hsuppressed]
    exact hs.logged (.say _ _ _ _)
  | false =>
    cases hr : render q.ref with
    | error stop =>
      rw [carryOut_of_error _ _ _ _ hsuppressed hr] at hgo
      exact nomatch hgo
    | ok text =>
      rw [carryOut_of_ok _ _ _ _ hsuppressed hr] at hgo ⊢
      exact .deliver (x := ⟨d.sink q, q.ref.name, text⟩) (hs.logged (.say _ _ _ _)) (Sink.takes_of_write hgo) (.refl _)

/-- Unless a request stops it, every sink takes the text that it is handed. -/
theorem dispatch_undergoes (hs : h.Undergoes s.2 s.1)
    (hgo : (d.dispatch (Host.effects true).recorded render true s requests).2 = none) :
    let o := d.dispatch (Host.effects true).recorded render true s requests
    h.Undergoes o.1.2 o.1.1 := by
  induction requests generalizing s with
  | nil => exact hs
  | cons q rest ih =>
    have hq := d.carryOut_undergoes render (q := q) hs
    unfold dispatch at hgo ⊢
    generalize d.carryOut (Host.effects true).recorded render true s q = o at hq hgo ⊢
    obtain ⟨s', _ | stop⟩ := o
    · exact ih (hq rfl) hgo
    · exact nomatch hgo

end Hosts

end Dispatcher

end Literate
