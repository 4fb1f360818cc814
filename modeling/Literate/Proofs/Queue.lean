import Literate.Web
import Mathlib.Data.List.Nodup

/-!
# The queue of requests

Requests that are queued one after another stay in their order, but of the displays of a reference only the first is
kept (`Request.filter_queue`). They are carried out in six groups (`Request.groups`), and sorting a queue by its groups
is taking these one after another, each in the order of the queue (`Request.arrange_eq`). Together these say what
becomes of any requests that are queued (`Request.arrange_queue`), and what a web answers that is asked for them in
between (`Web.requests_grouped`).
-/

namespace Literate

/-! ## Sorting by a key -/

section Sorting

variable {α : Type} (key : α → Int)

/-- A sorted list has the elements of its least key first. -/
theorem filter_append_filter_of_sorted {l : List α} (hl : l.Pairwise fun a b => key a ≤ key b) {k : Int}
    (hk : ∀ a ∈ l, k ≤ key a) : l.filter (key · = k) ++ l.filter (key · ≠ k) = l := by
  induction l with
  | nil => rfl
  | cons a l ih =>
    obtain ⟨ha, hl⟩ := List.pairwise_cons.mp hl
    by_cases hak : key a = k
    · rw [List.filter_cons_of_pos (by simpa using hak), List.filter_cons_of_neg (by simpa using hak), List.cons_append,
        ih hl fun b hb => hk b (List.mem_cons_of_mem a hb)]
    · -- the first key is larger than the least one, and so are all others
      have hlt : ∀ b ∈ a :: l, key b ≠ k := by
        intro b hb
        have hka := hk a List.mem_cons_self
        rcases List.mem_cons.mp hb with rfl | hb
        · exact hak
        · have hab := ha b hb
          omega
      rw [List.filter_eq_nil_iff.mpr (by simpa using hlt), List.filter_eq_self.mpr (by simpa using hlt), List.nil_append]

/-- A sorted list is what it has for each key, one after another. -/
theorem flatMap_filter_of_sorted {keys : List Int} (hkeys : keys.Pairwise (· < ·)) {l : List α}
    (hl : l.Pairwise fun a b => key a ≤ key b) (hmem : ∀ a ∈ l, key a ∈ keys) :
    (keys.flatMap fun k => l.filter (key · = k)) = l := by
  induction keys generalizing l with
  | nil =>
    rw [List.eq_nil_iff_forall_not_mem.mpr fun a ha => absurd (hmem a ha) List.not_mem_nil]
    rfl
  | cons k keys ih =>
    obtain ⟨hk, hkeys⟩ := List.pairwise_cons.mp hkeys
    have hleast : ∀ a ∈ l, k ≤ key a := by
      intro a ha
      rcases List.mem_cons.mp (hmem a ha) with h | h
      · exact Int.le_of_eq h.symm
      · exact Int.le_of_lt (hk _ h)
    have hrest := ih hkeys (hl.filter fun a => decide (key a ≠ k)) fun a ha => by
      obtain ⟨ha, hne⟩ := List.mem_filter.mp ha
      exact (List.mem_cons.mp (hmem a ha)).resolve_left (of_decide_eq_true hne)
    have hcongr : ∀ k' ∈ keys, (l.filter fun a => decide (key a ≠ k)).filter (key · = k') = l.filter (key · = k') := by
      intro k' hk'
      rw [List.filter_filter]
      refine List.filter_congr fun a _ => ?_
      have hne : k' ≠ k := Int.ne_of_gt (hk k' hk')
      by_cases h : key a = k'
      · simp [h, hne]
      · simp [h]
    rw [List.flatMap_cons, ← List.flatMap_congr hcongr, hrest]
    exact filter_append_filter_of_sorted key hl hleast

/-- Sorting leaves elements with the same key in their order. -/
theorem filter_mergeSort (l : List α) (k : Int) :
    (l.mergeSort fun a b => key a ≤ key b).filter (key · = k) = l.filter (key · = k) := by
  have htrans : ∀ a b c : α, decide (key a ≤ key b) = true → decide (key b ≤ key c) = true →
      decide (key a ≤ key c) = true := by
    simp only [decide_eq_true_eq]
    exact fun a b c => Int.le_trans
  have htotal : ∀ a b : α, (decide (key a ≤ key b) || decide (key b ≤ key a)) = true := by
    simp only [Bool.or_eq_true, decide_eq_true_eq]
    exact fun a b => Int.le_total _ _
  have hclass : (l.filter (key · = k)).Pairwise fun a b => decide (key a ≤ key b) = true := by
    refine List.pairwise_of_forall_mem_list fun a ha b hb => ?_
    have ha := of_decide_eq_true (List.mem_filter.mp ha).2
    have hb := of_decide_eq_true (List.mem_filter.mp hb).2
    exact decide_eq_true (Int.le_of_eq (ha.trans hb.symm))
  have hsub := (List.sublist_mergeSort htrans htotal hclass List.filter_sublist).filter (key · = k)
  rw [List.filter_filter] at hsub
  simp only [Bool.and_self] at hsub
  exact (hsub.eq_of_length ((List.mergeSort_perm l _).filter _).length_eq.symm).symm

/-- **Sorting by a key is taking what there is for each key, one after another.** -/
theorem mergeSort_eq_flatMap {keys : List Int} (hkeys : keys.Pairwise (· < ·)) {l : List α}
    (hmem : ∀ a ∈ l, key a ∈ keys) :
    (l.mergeSort fun a b => key a ≤ key b) = keys.flatMap fun k => l.filter (key · = k) := by
  have hsorted : (l.mergeSort fun a b => key a ≤ key b).Pairwise fun a b => key a ≤ key b := by
    refine (List.pairwise_mergeSort (fun a b c => ?_) (fun a b => ?_) l).imp of_decide_eq_true
    · simp only [decide_eq_true_eq]
      exact Int.le_trans
    · simp only [Bool.or_eq_true, decide_eq_true_eq]
      exact Int.le_total _ _
  rw [← flatMap_filter_of_sorted key hkeys hsorted fun a ha => hmem a (List.mem_mergeSort.mp ha)]
  exact List.flatMap_congr fun k _ => filter_mergeSort key l k

end Sorting

namespace Request

/-! ## Groups -/

/-- The action of a request and the namespace of its reference, which tell its group. -/
def place (q : Request) : Action × Kind := (q.action, q.ref.kind)

/-- The groups in which requests are carried out, one after another. -/
def groups : List (Action × Kind) :=
  [(.display, .stream), (.display, .chunk), (.output, .stream), (.output, .chunk), (.pipe, .stream), (.pipe, .chunk)]

/-- What there is of one group, if there is something of each of several groups. -/
theorem filter_flatMap_place {gs : List (Action × Kind)} (hgs : gs.Nodup) {f : Action × Kind → List Request}
    (hf : ∀ g, ∀ q ∈ f g, q.place = g) {g : Action × Kind} (hg : g ∈ gs) : (gs.flatMap f).filter (·.place = g) = f g := by
  have hself : (f g).filter (·.place = g) = f g := List.filter_eq_self.mpr fun q hq => decide_eq_true (hf g q hq)
  induction gs with
  | nil => exact absurd hg List.not_mem_nil
  | cons g' gs ih =>
    obtain ⟨hn, hgs⟩ := List.nodup_cons.mp hgs
    rw [List.flatMap_cons, List.filter_append]
    rcases List.mem_cons.mp hg with rfl | hg
    · have hnone : (gs.flatMap f).filter (·.place = g) = [] := by
        refine List.filter_eq_nil_iff.mpr fun q hq hp => hn ?_
        obtain ⟨g', hg', hq⟩ := List.mem_flatMap.mp hq
        rwa [← of_decide_eq_true hp, hf g' q hq]
      rw [hself, hnone, List.append_nil]
    · have hnone : (f g').filter (·.place = g) = [] := by
        refine List.filter_eq_nil_iff.mpr fun q hq hp => hn ?_
        rwa [← hf g' q hq, of_decide_eq_true hp]
      rw [hnone, List.nil_append, ih hgs hg]

theorem place_mem_groups {q : Request} (h : q.action = .display ∨ q.action = .output ∨ q.action = .pipe) :
    q.place ∈ groups := by
  have hall : ∀ k, (.display, k) ∈ groups ∧ (.output, k) ∈ groups ∧ (.pipe, k) ∈ groups := by
    intro k
    cases k <;> decide
  unfold place
  rcases h with h | h | h
  · exact h ▸ (hall q.ref.kind).1
  · exact h ▸ (hall q.ref.kind).2.1
  · exact h ▸ (hall q.ref.kind).2.2

/-- The number of a group. -/
def groupNumber (g : Action × Kind) : Int :=
  Word.wrap (g.1.code * 2) + (match g.2 with
    | .chunk => 1
    | .stream => 0)

theorem group_eq (q : Request) : q.group = groupNumber q.place := rfl

theorem map_groupNumber : groups.map groupNumber = [0, 1, 2, 3, 4, 5] := by decide

/-- The groups of actions with a name are small, so requests of such are sorted by their groups. -/
theorem isOrdinary_of_place {q : Request} (h : q.place ∈ groups) : q.isOrdinary = true := by
  have hmem : q.group ∈ groups.map groupNumber := group_eq q ▸ List.mem_map_of_mem h
  rw [map_groupNumber] at hmem
  have hsmall : ∀ n ∈ [0, 1, 2, 3, 4, 5], Int.natAbs n < 6 := by decide
  exact decide_eq_true (Nat.lt_of_lt_of_le (hsmall _ hmem) (by decide))

/-- **Requests are carried out group by group**, in each group in the order in which they were queued. -/
theorem arrange_eq {queue : Array Request} (h : ∀ q ∈ queue, q.place ∈ groups) :
    arrange queue = groups.flatMap fun g => queue.toList.filter (·.place = g) := by
  have hall : queue.all isOrdinary = true := by
    rw [Array.all_eq_true_iff_forall_mem]
    exact fun q hq => isOrdinary_of_place (h q hq)
  have hsorted : (groups.map groupNumber).Pairwise (· < ·) := by
    rw [map_groupNumber]
    decide
  have hplace : ∀ q ∈ queue.toList, q.place ∈ groups := fun q hq => h q (Array.mem_toList_iff.mp hq)
  have hgroup : ∀ q ∈ queue.toList, q.group ∈ groups.map groupNumber := fun q hq =>
    group_eq q ▸ List.mem_map_of_mem (hplace q hq)
  have hiff : ∀ g ∈ groups, ∀ q ∈ queue.toList, (q.group = groupNumber g ↔ q.place = g) := fun g hg q hq =>
    ⟨fun he => List.inj_on_of_nodup_map hsorted.nodup (hplace q hq) hg ((group_eq q).symm.trans he),
      fun he => he ▸ group_eq q⟩
  unfold arrange
  rw [if_pos hall, mergeSort_eq_flatMap group hsorted hgroup, List.flatMap_map]
  exact List.flatMap_congr fun g hg => List.filter_congr fun q hq => decide_eq_decide.mpr (hiff g hg q hq)

/-! ## The first of each reference -/

/-- The requests without those whose reference is that of one before. -/
def firsts : List Request → List Request
  | [] => []
  | q :: rest => q :: (firsts rest).filter (·.ref ≠ q.ref)

theorem firsts_sublist (l : List Request) : (firsts l).Sublist l := by
  induction l with
  | nil => exact .slnil
  | cons q rest ih => exact (List.filter_sublist.trans ih).cons_cons q

/-- Of more requests, those with a new reference are kept. -/
theorem firsts_append (l more : List Request) :
    firsts (l ++ more) = firsts l ++ (firsts more).filter fun q => q.ref ∉ l.map (·.ref) := by
  induction l with
  | nil => simp [firsts]
  | cons q rest ih =>
    rw [List.cons_append, firsts, ih, List.filter_append, List.filter_filter, firsts, List.cons_append]
    congr 2
    refine List.filter_congr fun r _ => ?_
    simp [not_or]

/-- Where some references were seen before, the first request is kept if its reference was not, and is seen then. -/
theorem filter_firsts_cons (seen : List Ref) (q : Request) (rest : List Request) :
    ((firsts (q :: rest)).filter fun p => p.ref ∉ seen) =
      if q.ref ∈ seen then (firsts rest).filter fun p => p.ref ∉ seen
      else q :: (firsts rest).filter fun p => p.ref ∉ seen ++ [q.ref] := by
  rw [firsts]
  split
  · rename_i hq
    rw [List.filter_cons_of_neg (by simpa using hq), List.filter_filter]
    refine List.filter_congr fun p _ => ?_
    by_cases hp : p.ref = q.ref
    · simp [hp, hq]
    · simp [hp]
  · rename_i hq
    rw [List.filter_cons_of_pos (by simpa using hq), List.filter_filter]
    congr 1
    refine List.filter_congr fun p _ => ?_
    simp [not_or]

/-- Each reference is kept once. -/
theorem countP_firsts (ref : Ref) (l : List Request) :
    (firsts l).countP (·.ref = ref) = if ref ∈ l.map (·.ref) then 1 else 0 := by
  induction l with
  | nil => rfl
  | cons q rest ih =>
    rw [firsts, List.countP_cons, List.countP_filter]
    by_cases hq : q.ref = ref
    · rw [List.countP_eq_zero.mpr fun r _ => by simp [hq]]
      simp [hq]
    · rw [List.countP_congr (q := (·.ref = ref)) fun r _ => by
        simp only [ne_eq, Bool.and_eq_true, decide_eq_true_eq, decide_not, Bool.not_eq_true',
          decide_eq_false_iff_not, and_iff_left_iff_imp]
        rintro rfl
        exact fun h => hq h.symm, ih]
      simp [hq, Ne.symm hq, eq_comm]

/-! ## Queueing -/

/-- What is kept of the requests of a group that are queued one after another. -/
def kept (g : Action × Kind) (l : List Request) : List Request := if g.1 = .display then firsts l else l

theorem kept_sublist (g : Action × Kind) (l : List Request) : (kept g l).Sublist l := by
  unfold kept
  split
  · exact firsts_sublist l
  · exact .refl l

/-- Of more requests, those are kept that do not display what is displayed before. -/
theorem kept_append (g : Action × Kind) (l more : List Request) :
    kept g (l ++ more) = kept g l ++ (kept g more).filter fun q => ¬(g.1 = .display ∧ q.ref ∈ l.map (·.ref)) := by
  unfold kept
  split
  · rename_i hg
    simp only [firsts_append, hg, true_and]
  · rename_i hg
    simp only [hg, false_and, not_false_eq_true, decide_true, List.filter_true]

theorem toList_enqueue (queue : Array Request) (q : Request) :
    (enqueue queue q).toList =
      if q.action = .display ∧ queue.toList.any (·.displays q.ref) then queue.toList else queue.toList ++ [q] := by
  unfold enqueue
  rw [← Array.any_toList]
  split
  · rfl
  · exact Array.toList_push

/-- Requests of another action than a display all stay. -/
theorem filter_queue_of_ne {g : Action × Kind} (hg : g.1 ≠ .display) (l : List Request) (queue : Array Request) :
    (l.foldl enqueue queue).toList.filter (·.place = g) =
      queue.toList.filter (·.place = g) ++ l.filter (·.place = g) := by
  induction l generalizing queue with
  | nil => exact (List.append_nil _).symm
  | cons q rest ih =>
    rw [List.foldl_cons, ih, toList_enqueue]
    by_cases hq : q.place = g
    · have hd : q.action ≠ .display := fun h => hg (hq ▸ h)
      rw [if_neg fun h => hd h.1, List.filter_append, List.filter_cons_of_pos (by simpa using hq),
        List.filter_cons_of_pos (by simpa using hq), List.append_assoc]
      rfl
    · rw [List.filter_cons_of_neg (by simpa using hq)]
      split
      · rfl
      · rw [List.filter_append, List.filter_cons_of_neg (by simpa using hq), List.filter_nil, List.append_nil]

/-- Whether a reference is displayed by a queue can be told from the group of its displays. -/
theorem any_displays_iff (l : List Request) (ref : Ref) :
    l.any (·.displays ref) ↔ ref ∈ (l.filter (·.place = (.display, ref.kind))).map (·.ref) := by
  rw [List.any_eq_true, List.mem_map]
  refine exists_congr fun q => ?_
  rw [List.mem_filter, and_assoc]
  refine and_congr_right fun _ => ?_
  simp only [displays, place, decide_eq_true_eq, Prod.mk.injEq]
  constructor
  · rintro ⟨ha, rfl⟩
    exact ⟨⟨ha, rfl⟩, rfl⟩
  · rintro ⟨⟨ha, -⟩, rfl⟩
    exact ⟨ha, rfl⟩

/-- Of displays the first of each reference stays, unless the queue has one already. -/
theorem filter_queue_display (k : Kind) (l : List Request) (queue : Array Request) :
    (l.foldl enqueue queue).toList.filter (·.place = (.display, k)) =
      queue.toList.filter (·.place = (.display, k)) ++
        (firsts (l.filter (·.place = (.display, k)))).filter fun q =>
          q.ref ∉ (queue.toList.filter (·.place = (.display, k))).map (·.ref) := by
  induction l generalizing queue with
  | nil => exact (List.append_nil _).symm
  | cons q rest ih =>
    rw [List.foldl_cons, ih, toList_enqueue]
    by_cases hq : q.place = (.display, k)
    · obtain ⟨ha, rfl⟩ := Prod.mk.inj hq
      rw [List.filter_cons_of_pos (by simpa using hq), filter_firsts_cons]
      simp only [ha, true_and, any_displays_iff]
      split
      · rfl
      · rw [List.filter_append, List.filter_cons_of_pos (by simpa using hq), List.filter_nil, List.append_assoc,
          List.map_append]
        rfl
    · rw [List.filter_cons_of_neg (by simpa using hq)]
      split
      · rfl
      · rw [List.filter_append, List.filter_cons_of_neg (by simpa using hq), List.filter_nil, List.append_nil]

/-- **What is queued of each group.** -/
theorem filter_queue (g : Action × Kind) (l : List Request) :
    (l.foldl enqueue #[]).toList.filter (·.place = g) = kept g (l.filter (·.place = g)) := by
  unfold kept
  split
  · rename_i hg
    obtain ⟨action, k⟩ := g
    obtain rfl : action = .display := hg
    rw [filter_queue_display]
    simp
  · rename_i hg
    rw [filter_queue_of_ne hg]
    rfl

/-- Nothing is queued but what was to be queued. -/
theorem mem_of_mem_queue {l : List Request} {queue : Array Request} {q : Request} (h : q ∈ l.foldl enqueue queue) :
    q ∈ queue ∨ q ∈ l := by
  induction l generalizing queue with
  | nil => exact .inl h
  | cons r rest ih =>
    rcases ih h with h | h
    · unfold enqueue at h
      split at h
      · exact .inl h
      · rcases Array.mem_push.mp h with h | rfl
        · exact .inl h
        · exact .inr List.mem_cons_self
    · exact .inr (List.mem_cons_of_mem r h)

/-- **What is carried out of requests that are queued one after another.** -/
theorem arrange_queue {l : List Request} (h : ∀ q ∈ l, q.place ∈ groups) :
    arrange (l.foldl enqueue #[]) = groups.flatMap fun g => kept g (l.filter (·.place = g)) := by
  rw [arrange_eq fun q hq => h q ((mem_of_mem_queue hq).resolve_left (Array.not_mem_empty q))]
  exact List.flatMap_congr fun g _ => filter_queue g l

/-- Requests with names for their actions are carried out as they are queued, each as often as it is. -/
theorem arrange_perm {queue : Array Request} (h : ∀ q ∈ queue, q.place ∈ groups) : (arrange queue).Perm queue.toList := by
  have hall : queue.all isOrdinary = true := by
    rw [Array.all_eq_true_iff_forall_mem]
    exact fun q hq => isOrdinary_of_place (h q hq)
  unfold arrange
  rw [if_pos hall]
  exact List.mergeSort_perm _ _

/-- No group can tell the order of two requests that belong to different ones. -/
theorem filter_place_swap {a b : Request} (hab : a.place ≠ b.place) (before after : List Request) (g : Action × Kind) :
    (before ++ b :: a :: after).filter (·.place = g) = (before ++ a :: b :: after).filter (·.place = g) := by
  rw [List.filter_append, List.filter_append]
  congr 1
  by_cases ha : a.place = g
  · have hb : ¬ b.place = g := fun hb => hab (ha.trans hb.symm)
    simp [ha, hb]
  · simp [List.filter_cons, ha]

end Request

/-! ## Asking in between -/

/-- A call about the queue of a web: a request is queued, or the queued requests are asked for. -/
inductive QueueCall where
  | queue (q : Request)
  | ask

namespace QueueCall

/-- What a call makes of a web. The answer to a question is `Web.requests`, and nothing becomes of the web. -/
def perform (w : Web) : QueueCall → Web
  | queue q => w.request q
  | ask => w

/-- The request that a call queues, if it queues one. -/
def request? : QueueCall → Option Request
  | queue q => some q
  | ask => none

/-- Questions leave no trace in the queue. -/
theorem queue_foldl_perform (calls : List QueueCall) (w : Web) :
    (calls.foldl perform w).queue = (calls.filterMap request?).foldl Request.enqueue w.queue := by
  induction calls generalizing w with
  | nil => rfl
  | cons c calls ih =>
    rw [List.foldl_cons, ih]
    cases c <;> rfl

end QueueCall

/-- **Requests are answered in groups.** Requests to display, to output and to pipe are queued, and are asked for as often
as one likes. What is answered then are the six groups one after another. In each of them there are the requests of the
group in the order in which they were queued; but of the displays of a reference there is only the first. The answer has
each request as often as the queue has it, and the queue is what it would be without the questions before. It makes no
difference to the answer in which order two requests of different groups were queued one right after the other. -/
theorem Web.requests_grouped {calls : List QueueCall}
    (h : ∀ q, .queue q ∈ calls → q.action = .display ∨ q.action = .output ∨ q.action = .pipe) :
    let w := calls.foldl QueueCall.perform .empty
    let queued := calls.filterMap QueueCall.request?
    w.requests = (Request.groups.flatMap fun g =>
      if g.1 = .display then Request.firsts (queued.filter (·.place = g)) else queued.filter (·.place = g)) ∧
    w.requests.Perm w.queue.toList ∧
    w.queue = (queued.foldl Web.request .empty).queue ∧
    ∀ before a b after, calls = before ++ .queue a :: .queue b :: after → a.place ≠ b.place →
      ((before ++ .queue b :: .queue a :: after).foldl QueueCall.perform .empty).requests = w.requests := by
  intro w queued
  have hplace : ∀ q ∈ queued, q.place ∈ Request.groups := by
    intro q hq
    obtain ⟨c, hc, he⟩ := List.mem_filterMap.mp hq
    cases c with
    | queue p => exact Option.some.inj he ▸ Request.place_mem_groups (h p hc)
    | ask => exact nomatch he
  have hqueue : w.queue = queued.foldl Request.enqueue #[] := QueueCall.queue_foldl_perform calls .empty
  have hanswer : w.requests = Request.groups.flatMap fun g => Request.kept g (queued.filter (·.place = g)) := by
    rw [requests, hqueue, Request.arrange_queue hplace]
  refine ⟨hanswer, Request.arrange_perm fun q hq => ?_, ?_, fun before a b after hcalls hab => ?_⟩
  · rw [hqueue] at hq
    exact hplace q ((Request.mem_of_mem_queue hq).resolve_left (Array.not_mem_empty q))
  · have hmap : (queued.map QueueCall.queue).filterMap QueueCall.request? = queued := by
      rw [List.filterMap_map]
      exact List.filterMap_some
    have hfold := QueueCall.queue_foldl_perform (queued.map .queue) .empty
    rw [hmap, List.foldl_map] at hfold
    exact hqueue.trans hfold.symm
  · -- the same requests are queued in another order
    have hqueued : queued = before.filterMap QueueCall.request? ++ a :: b :: after.filterMap QueueCall.request? := by
      rw [show queued = calls.filterMap QueueCall.request? from rfl, hcalls]
      simp [QueueCall.request?]
    have hswapped : (before ++ .queue b :: .queue a :: after).filterMap QueueCall.request? =
        before.filterMap QueueCall.request? ++ b :: a :: after.filterMap QueueCall.request? := by
      simp [QueueCall.request?]
    have hmem : ∀ q ∈ before.filterMap QueueCall.request? ++ b :: a :: after.filterMap QueueCall.request?,
        q.place ∈ Request.groups := by
      intro q hq
      refine hplace q (hqueued ▸ ?_)
      simp only [List.mem_append, List.mem_cons] at hq ⊢
      tauto
    rw [hanswer, requests, QueueCall.queue_foldl_perform, hswapped]
    refine (Request.arrange_queue hmem).trans (List.flatMap_congr fun g _ => ?_)
    rw [hqueued, Request.filter_place_swap hab]

/-- A display of a stream that is asked for twice, an output that is, and a pipe before them, with questions in between. -/
def asked : List QueueCall :=
  [.queue { action := .pipe, ref := ⟨.stream, "s"⟩, target := "wc", origin := .command }, .ask,
    .queue { action := .display, ref := ⟨.stream, "s"⟩, origin := .directive },
    .queue { action := .output, ref := ⟨.chunk, "c"⟩, target := "f", origin := .directive }, .ask,
    .queue { action := .display, ref := ⟨.stream, "s"⟩, origin := .command },
    .queue { action := .output, ref := ⟨.chunk, "c"⟩, target := "f", origin := .directive }]

/-- The first display is kept, and both outputs are. -/
theorem Web.requests_grouped_asked :
    (∀ q, .queue q ∈ asked → q.action = .display ∨ q.action = .output ∨ q.action = .pipe) ∧
    (asked.foldl QueueCall.perform .empty).requests =
      [{ action := .display, ref := ⟨.stream, "s"⟩, origin := .directive },
        { action := .output, ref := ⟨.chunk, "c"⟩, target := "f", origin := .directive },
        { action := .output, ref := ⟨.chunk, "c"⟩, target := "f", origin := .directive },
        { action := .pipe, ref := ⟨.stream, "s"⟩, target := "wc", origin := .command }] := by
  have h : ∀ q, .queue q ∈ asked → q.action = .display ∨ q.action = .output ∨ q.action = .pipe := by
    intro q hq
    simp only [asked, List.mem_cons, QueueCall.queue.injEq, reduceCtorEq, List.not_mem_nil, false_or, or_false] at hq
    rcases hq with rfl | rfl | rfl | rfl | rfl <;> decide
  exact ⟨h, (requests_grouped h).1.trans (by decide)⟩

end Literate
