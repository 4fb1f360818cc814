import Literate.Command.Run
import Literate.Proofs.Documents
import Literate.Proofs.Phases
import Literate.Proofs.Queue

/-!
# Where requests come from

Requests enter the queue of a web in two ways only: a directive of a document makes them while the document is read, and
then they say so (`Request.IsDirected`), or the command line makes them, one for each of its names and pairs
(`Command.Run.requests_ok`). Expansion leaves the queue alone. So of every request that a run carries out it is known
where it comes from (`Command.Run.Asked`), and that is all that its policy looks at.
-/

namespace Literate

open Text Log

/-! ## Queues -/

/-- All queued requests of a web have a property. -/
def Web.Asks (P : Request → Prop) (w : Web) : Prop := ∀ q ∈ w.queue, P q

/-- All requests that are made on a stretch of reading have a property. -/
def Transcript.Asks (P : Request → Prop) (t : Transcript) : Prop := ∀ q, .requested q ∈ t.items → P q

section Queue

variable {P : Request → Prop} {w : Web}

theorem Web.Asks.request (h : w.Asks P) {q : Request} (hq : P q) : (w.request q).Asks P := by
  intro r hr
  simp only [Web.request, Request.enqueue] at hr
  split at hr
  · exact h r hr
  · rcases Array.mem_push.mp hr with hr | rfl
    · exact h r hr
    · exact hq

/-- Requests stay in the queue. -/
theorem Web.mem_queue_request {q : Request} (hq : q ∈ w.queue) (r : Request) : q ∈ (w.request r).queue := by
  unfold Web.request Request.enqueue
  dsimp only
  split
  · exact hq
  · exact Array.mem_push_of_mem r hq

/-- Only a display may be dropped. -/
theorem Web.mem_queue_request_self {q : Request} (hq : q.action ≠ .display) : q ∈ (w.request q).queue := by
  unfold Web.request Request.enqueue
  dsimp only
  rw [if_neg fun h => hq h.1]
  exact Array.mem_push_self

theorem Web.mem_queue_foldl_request {q : Request} {requests : List Request} (hq : q ∈ requests)
    (ha : q.action ≠ .display) (w : Web) : q ∈ (requests.foldl Web.request w).queue := by
  induction requests generalizing w with
  | nil => exact absurd hq List.not_mem_nil
  | cons r rest ih =>
    rcases List.mem_cons.mp hq with rfl | hq
    · exact List.foldlRecOn rest Web.request (motive := fun v : Web => q ∈ v.queue) (Web.mem_queue_request_self ha)
        fun v hv r _ => Web.mem_queue_request hv r
    · exact ih hq (w.request r)

theorem Web.mem_queue_replay {q : Request} (hq : q ∈ w.queue) (items : List Item) : q ∈ (w.replay items).queue := by
  refine Web.replay_induction (P := fun v => q ∈ v.queue) (fun v i hv => ?_) items hq
  cases i with
  | requested r => exact Web.mem_queue_request hv r
  | _ => exact hv

theorem Web.Asks.enact (h : w.Asks P) {i : Item} (hi : ∀ q, i = .requested q → P q) : (i.enact w).Asks P := by
  cases i with
  | requested q => exact h.request (hi q rfl)
  | _ => exact h

theorem Web.Asks.replay {items : List Item} (h : w.Asks P) (hi : ∀ q, .requested q ∈ items → P q) :
    (w.replay items).Asks P := by
  induction items generalizing w with
  | nil => exact h
  | cons i items ih =>
    exact ih (h.enact fun q hq => hi q (hq ▸ List.mem_cons_self)) fun q hq => hi q (List.mem_cons_of_mem _ hq)

end Queue

/-! ## Directives -/

namespace Request

/-- A request that a directive of a document makes. -/
structure IsDirected (q : Request) : Prop where
  origin : q.origin = .directive
  action : q.action = .display ∨ q.action = .output ∨ q.action = .pipe

end Request

theorem requestOf_directed {action : Action} {k : Kind} {args : Text} {l : LogicalLine} {q : Request}
    (h : requestOf action k args l = some q) : q.IsDirected := by
  cases action with
  | display =>
    simp only [requestOf] at h
    split at h
    · obtain rfl := Option.some.inj h
      exact ⟨rfl, .inl rfl⟩
    · exact nomatch h
  | output =>
    simp only [requestOf] at h
    split at h
    · obtain rfl := Option.some.inj h
      exact ⟨rfl, .inr (.inl rfl)⟩
    · exact nomatch h
  | pipe =>
    obtain ⟨_, _, rfl⟩ := Option.map_eq_some_iff.mp h
    exact ⟨rfl, .inr (.inr rfl)⟩
  | other => exact nomatch h

theorem Directive.items_directed (d : Directive) (args : Text) (l : LogicalLine) {q : Request}
    (h : .requested q ∈ d.items args l) : q.IsDirected := by
  have hr : ∀ {action k}, Item.requested q ∈ (requestOf action k args l).toList.map Item.requested → q.IsDirected := by
    intro action k hm
    obtain ⟨r, hr, he⟩ := List.mem_map.mp hm
    obtain rfl := Item.requested.inj he
    exact requestOf_directed (Option.mem_toList.mp hr)
  have hother : ∀ {i : Item}, .requested q ≠ i → .requested q ∉ [i] := fun hn hm => hn (List.mem_singleton.mp hm)
  cases d with
  | use k =>
    simp only [items] at h
    split at h
    · exact absurd h List.not_mem_nil
    · exact absurd h (hother (by simp))
  | display k => exact hr h
  | output k => exact hr h
  | pipe k => exact hr h
  | beginGroup k => exact absurd h (hother (by simp))
  | endGroup k => exact absurd h (hother (by simp))
  | print => exact absurd h (hother (by simp))
  | _ => exact absurd h List.not_mem_nil

/-! ## Documents -/

section Documents

variable (settings : Settings) (lib : Library)

/-- What directives ask for, they ask for as directives. -/
theorem rule_directed : Rule (fun i => ∀ q, i = .requested q → q.IsDirected) fun _ => True :=
  .ofItems (fun _ _ h => nomatch h) fun d args l _ hi _ hq => d.items_directed args l (hq ▸ hi)

/-- All that a document asks for, it asks for by a directive. -/
theorem transcribeCall_directed (live : Bool) (name : Text) (source : Source) (c : Control) :
    (transcribeCall settings lib live name source c).Asks Request.IsDirected := fun q hq =>
  Reading.transcribe_items settings rule_directed c (r := .parse lib live name source) (fun _ h => nomatch h) _ hq q rfl

/-- Reading a source adds to the queue nothing but what directives ask for. -/
theorem Web.Asks.parse {P : Request → Prop} {w : Web} (h : w.Asks P) (hP : ∀ q : Request, q.IsDirected → P q)
    (live : Bool) (name : Text) (source : Source) (hx : w.expanded = false) :
    (w.parse settings lib live name source).1.web.Asks P := by
  rw [(parse_transcribes settings lib live name source hx).1]
  exact Web.Asks.replay h fun q hq => hP q (transcribeCall_directed settings lib live name source w.control q hq)

theorem Web.mem_queue_parse {w : Web} {q : Request} (hq : q ∈ w.queue) (live : Bool) (name : Text) (source : Source)
    (hx : w.expanded = false) : q ∈ (w.parse settings lib live name source).1.web.queue := by
  rw [(parse_transcribes settings lib live name source hx).1]
  exact Web.mem_queue_replay hq _

end Documents

/-! ## The command line -/

namespace Command

namespace Run

/-- The pairs of the command line for an action and a namespace. -/
def pairs (r : Run) : Action → Kind → List Text
  | .output, .chunk => r.outputChunk
  | .output, .stream => r.outputStream
  | .pipe, .chunk => r.pipeChunk
  | .pipe, .stream => r.pipeStream
  | _, _ => []

/-- A request that the command line makes: a display of a name, or what one of its pairs says. -/
structure IsCommanded (r : Run) (q : Request) : Prop where
  origin : q.origin = .command
  pair : q.action = .display ∨ ∃ pair ∈ r.pairs q.action q.ref.kind, splitPair? pair = some (q.ref.name, q.target)

/-- A request that the command line makes because of a pair. -/
structure IsAskedBy (action : Action) (kind : Kind) (pair : Text) (q : Request) : Prop where
  action : q.action = action
  kind : q.ref.kind = kind
  origin : q.origin = .command
  pair : splitPair? pair = some (q.ref.name, q.target)

theorem IsAskedBy.action_ne_display {r : Run} {action : Action} {kind : Kind} {pair : Text} {q : Request}
    (h : IsAskedBy action kind pair q) (hm : pair ∈ r.pairs action kind) : q.action ≠ .display := by
  rw [h.action]
  rintro rfl
  exact absurd hm List.not_mem_nil

/-- What a pair says, if it is not malformed. -/
def pairRequest? (action : Action) (kind : Kind) (pair : Text) : Option Request :=
  (splitPair? pair).map fun p => { action, ref := ⟨kind, p.1⟩, target := p.2, origin := .command }

theorem isAskedBy_of_pairRequest? {action : Action} {kind : Kind} {pair : Text} {q : Request}
    (h : pairRequest? action kind pair = some q) : IsAskedBy action kind pair q := by
  obtain ⟨⟨name, target⟩, hp, rfl⟩ := Option.map_eq_some_iff.mp h
  exact ⟨rfl, rfl, rfl, hp⟩

/-- A flag makes one request for each of its pairs, if none of them is malformed. -/
theorem pairRequests_eq {action : Action} {kind : Kind} {flag : String} {pairs : List Text} {requests : List Request}
    (h : pairRequests action kind flag pairs = .ok requests) :
    pairs.map (pairRequest? action kind) = requests.map some := by
  induction pairs generalizing requests with
  | nil =>
    obtain rfl : [] = requests := Except.ok.inj h
    rfl
  | cons pair rest ih =>
    simp only [pairRequests, List.mapM_cons] at h
    cases hp : splitPair? pair with
    | none =>
      rw [hp] at h
      exact nomatch h
    | some value =>
      rw [hp] at h
      cases hrest : pairRequests action kind flag rest with
      | error f =>
        simp only [pairRequests] at hrest
        rw [hrest] at h
        exact nomatch h
      | ok more =>
        have hmore := ih hrest
        simp only [pairRequests] at hrest
        rw [hrest] at h
        obtain rfl := Except.ok.inj h
        rw [List.map_cons, List.map_cons, hmore, pairRequest?, hp]
        rfl

/-- The names that the command line asks to display. -/
def displayed (r : Run) : Kind → List Text
  | .chunk => r.displayChunk
  | .stream => r.displayStream

/-- What the flag of a group asks for, in the order in which it was given: to display each of its names, or what each of
its pairs says. -/
def flagged (r : Run) : Action × Kind → List Request
  | (.display, kind) => (r.displayed kind).map fun name => { action := .display, ref := ⟨kind, name⟩, origin := .command }
  | (action, kind) => (r.pairs action kind).filterMap (pairRequest? action kind)

theorem place_of_mem_flagged {r : Run} (g : Action × Kind) : ∀ q ∈ r.flagged g, q.place = g ∧ r.IsCommanded q := by
  obtain ⟨action, kind⟩ := g
  have hpairs : ∀ q ∈ (r.pairs action kind).filterMap (pairRequest? action kind),
      q.place = (action, kind) ∧ r.IsCommanded q := by
    intro q hq
    obtain ⟨pair, hm, hp⟩ := List.mem_filterMap.mp hq
    obtain ⟨rfl, rfl, ho, hs⟩ := isAskedBy_of_pairRequest? hp
    exact ⟨rfl, ho, .inr ⟨pair, hm, hs⟩⟩
  cases action with
  | display =>
    intro q hq
    obtain ⟨name, _, rfl⟩ := List.mem_map.mp hq
    exact ⟨rfl, rfl, .inl rfl⟩
  | _ => exact hpairs

/-- The groups of the command line's requests, in the order in which they are queued. -/
def flagOrder : List (Action × Kind) :=
  [(.display, .chunk), (.display, .stream), (.output, .chunk), (.output, .stream), (.pipe, .chunk), (.pipe, .stream)]

/-- **The command line makes the requests of its flags**, if none of its pairs is malformed. -/
theorem requests_eq {r : Run} {requests : List Request} (h : r.requests = .ok requests) :
    requests = flagOrder.flatMap r.flagged ∧
      ∀ action kind, (r.pairs action kind).map (pairRequest? action kind) =
        ((r.pairs action kind).filterMap (pairRequest? action kind)).map some := by
  have hmade : ∀ {action kind flag requests}, pairRequests action kind flag (r.pairs action kind) = .ok requests →
      (r.pairs action kind).filterMap (pairRequest? action kind) = requests ∧
      (r.pairs action kind).map (pairRequest? action kind) =
        ((r.pairs action kind).filterMap (pairRequest? action kind)).map some := by
    intro action kind flag requests h
    have hmap := pairRequests_eq h
    have hfilter : (r.pairs action kind).filterMap (pairRequest? action kind) = requests := by
      have hid := congrArg (List.filterMap id) hmap
      rwa [List.filterMap_map, List.filterMap_map, Function.id_comp, Function.id_comp, List.filterMap_some] at hid
    exact ⟨hfilter, hmap.trans (congrArg _ hfilter.symm)⟩
  unfold Run.requests at h
  cases hoc : pairRequests .output .chunk "output-chunk" r.outputChunk with
  | error f => rw [hoc] at h; exact nomatch h
  | ok outputChunks =>
  cases hos : pairRequests .output .stream "output-stream" r.outputStream with
  | error f => rw [hoc, hos] at h; exact nomatch h
  | ok outputStreams =>
  cases hpc : pairRequests .pipe .chunk "pipe-chunk" r.pipeChunk with
  | error f => rw [hoc, hos, hpc] at h; exact nomatch h
  | ok pipeChunks =>
  cases hps : pairRequests .pipe .stream "pipe-stream" r.pipeStream with
  | error f => rw [hoc, hos, hpc, hps] at h; exact nomatch h
  | ok pipeStreams =>
  rw [hoc, hos, hpc, hps] at h
  obtain rfl := Except.ok.inj h
  obtain ⟨hoc, hoc'⟩ := @hmade .output .chunk _ _ hoc
  obtain ⟨hos, hos'⟩ := @hmade .output .stream _ _ hos
  obtain ⟨hpc, hpc'⟩ := @hmade .pipe .chunk _ _ hpc
  obtain ⟨hps, hps'⟩ := @hmade .pipe .stream _ _ hps
  refine ⟨?_, fun action kind => ?_⟩
  · rw [← hoc, ← hos, ← hpc, ← hps]
    simp [flagOrder, flagged, displayed, displayRequests]
  · match action, kind with
    | .output, .chunk => exact hoc'
    | .output, .stream => exact hos'
    | .pipe, .chunk => exact hpc'
    | .pipe, .stream => exact hps'
    | .display, _ => rfl
    | .other _, _ => rfl

/-- The command line makes its requests only if none of its pairs is malformed: what each pair says, and displays of
names. -/
theorem requests_ok {r : Run} {requests : List Request} (h : r.requests = .ok requests) :
    (∀ action kind, ∀ pair ∈ r.pairs action kind, ∃ q ∈ requests, IsAskedBy action kind pair q) ∧
      ∀ q ∈ requests, r.IsCommanded q := by
  obtain ⟨rfl, hmap⟩ := requests_eq h
  refine ⟨fun action kind pair hm => ?_, fun q hq => ?_⟩
  · have hmade : pairRequest? action kind pair ∈ (r.pairs action kind).map (pairRequest? action kind) :=
      List.mem_map_of_mem hm
    rw [hmap] at hmade
    obtain ⟨q, hq, he⟩ := List.mem_map.mp hmade
    refine ⟨q, List.mem_flatMap.mpr ⟨(action, kind), ?_, ?_⟩, isAskedBy_of_pairRequest? he.symm⟩
    · match action, kind, hm with
      | .output, .chunk, _ => decide
      | .output, .stream, _ => decide
      | .pipe, .chunk, _ => decide
      | .pipe, .stream, _ => decide
    · match action, hm with
      | .output, _ => exact hq
      | .pipe, _ => exact hq
  · obtain ⟨g, _, hq⟩ := List.mem_flatMap.mp hq
    exact (place_of_mem_flagged g q hq).2

/-- Where the requests of a run come from: from the command line, or from directives of the documents. -/
def Asked (r : Run) (q : Request) : Prop := r.IsCommanded q ∨ q.IsDirected

theorem Asked.action {r : Run} {q : Request} (h : r.Asked q) :
    q.action = .display ∨ q.action = .output ∨ q.action = .pipe := by
  rcases h with ⟨_, h | ⟨pair, hm, _⟩⟩ | h
  · exact .inl h
  · cases ha : q.action with
    | display => exact .inl rfl
    | output => exact .inr (.inl rfl)
    | pipe => exact .inr (.inr rfl)
    | other n =>
      rw [ha] at hm
      exact absurd hm List.not_mem_nil
  · exact h.action

/-- The requests of a web are those that are queued, if all come from the command line or from directives. -/
theorem mem_requests_iff {r : Run} {w : Web} (h : w.Asks r.Asked) {q : Request} : q ∈ w.requests ↔ q ∈ w.queue := by
  have hall : w.queue.all Request.isOrdinary = true := by
    rw [Array.all_eq_true_iff_forall_mem]
    exact fun p hp => Request.isOrdinary_of_place (Request.place_mem_groups (h p hp).action)
  unfold Web.requests Request.arrange
  rw [if_pos hall, List.mem_mergeSort]
  exact Array.mem_toList_iff

end Run

end Command

end Literate
