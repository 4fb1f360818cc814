import Literate.Proofs.Documents
import Literate.Proofs.FanOut
import Literate.Proofs.Invariant

/-!
# How a web is represented

A web is well-formed between calls, whatever became of them (`Web.WellFormed`): besides what is known of a sound web, no
name is listed twice, uses name something, and the lines of an entity that is not expanded stand in the order in which
they were stored. And it only ever grows at the end (`Web.Extends`): the index of a line and the place of a name are
theirs for good.

Both are shown of one item, then of one call and of all calls. That uses name something is a rule about the lines of
documents (`rule_named`). The main statement is `run_representation`.
-/

namespace Literate

open Text

/-! ## Elements -/

/-- The index of a line. -/
def Element.index? : Element → Option Nat
  | line i => some i
  | use _ => none

/-- The indices of the lines of an entity, in order. -/
def Entity.indices (e : Entity) : List Nat := e.elements.toList.filterMap Element.index?

theorem Entity.mem_indices_iff {e : Entity} {i : Nat} : i ∈ e.indices ↔ .line i ∈ e.elements.toList := by
  unfold indices
  rw [List.mem_filterMap]
  constructor
  · rintro ⟨x, hx, hi⟩
    cases x with
    | line j =>
      obtain rfl := Option.some.inj hi
      exact hx
    | use u => cases hi
  · exact fun h => ⟨_, h, rfl⟩

theorem Entity.toList_append (e : Entity) (x : Element) : (e.append x).elements.toList = e.elements.toList ++ [x] :=
  Array.toList_push

theorem Entity.indices_append (e : Entity) (x : Element) : (e.append x).indices = e.indices ++ x.index?.toList := by
  unfold indices
  rw [toList_append, List.filterMap_append]
  cases x <;> rfl

/-- A use names something, and no name is empty. -/
structure Use.Named (u : Use) : Prop where
  ne_nil : u.names ≠ []
  nonempty : ∀ name ∈ u.names, name ≠ []

/-- A use that an item accepts names something. -/
def Item.Named (i : Item) : Prop := ∀ u, i = .use u → u.Named

/-- Directives name something when they use it. -/
theorem rule_named : Rule Item.Named fun _ => True := by
  refine .ofItems (fun _ _ h => Item.noConfusion h) fun d args l i hi u hu => ?_
  subst hu
  have hrequest : ∀ {action k}, Item.use u ∉ (requestOf action k args l).toList.map Item.requested := fun hm => by
    obtain ⟨_, _, h⟩ := List.mem_map.mp hm
    exact Item.noConfusion h
  cases d with
  | use k =>
    simp only [Directive.items] at hi
    split at hi
    · exact absurd hi List.not_mem_nil
    · rename_i hne
      obtain rfl := Item.use.inj (List.mem_singleton.mp hi)
      exact ⟨hne, fun _ => ne_nil_of_mem_fields⟩
  | display k => exact absurd hi hrequest
  | output k => exact absurd hi hrequest
  | pipe k => exact absurd hi hrequest
  | beginGroup k => exact Item.noConfusion (List.mem_singleton.mp hi)
  | endGroup k => exact Item.noConfusion (List.mem_singleton.mp hi)
  | print => exact Item.noConfusion (List.mem_singleton.mp hi)
  | _ => exact absurd hi List.not_mem_nil

namespace Web

variable (settings : Settings) {w w' w'' : Web}

/-! ## Growth -/

/-- Stored lines and names are added at the end, and nowhere else. -/
structure Extends (w w' : Web) : Prop where
  lines : w.lines.toList <+: w'.lines.toList
  names : ∀ k, w.repository.names k <+: w'.repository.names k

theorem Extends.refl (w : Web) : w.Extends w := ⟨List.prefix_refl _, fun _ => List.prefix_refl _⟩

theorem Extends.trans (h : w.Extends w') (h' : w'.Extends w'') : w.Extends w'' :=
  ⟨h.lines.trans h'.lines, fun k => (h.names k).trans (h'.names k)⟩

/-- The names that an item begins are the only ones that it adds. -/
theorem names_enact (h : w.Tidy) (i : Item) (k : Kind) :
    (i.enact w).repository.names k = addNames (w.repository.names k) (i.begun k) := by
  cases i with
  | literal text => exact names_push (w := { w with lines := w.lines.push text }) ⟨h.nodup, h.defined⟩ _ k
  | use u => exact names_push h _ k
  | opened l names =>
    rw [show (Item.enact w (.opened l names)).repository = w.repository.defineAll l names from rfl,
      Repository.names_defineAll]
    by_cases hk : k = l
    · rw [if_pos hk, Item.begun, if_pos hk.symm]
    · rw [if_neg hk, Item.begun, if_neg (Ne.symm hk)]
      rfl
  | closed l names => rfl
  | requested r => rfl

theorem Extends.enact (h : w.Tidy) (i : Item) : w.Extends (i.enact w) := by
  refine ⟨?_, fun k => ?_⟩
  · cases i with
    | literal text =>
      show w.lines.toList <+: (w.lines.push text).toList
      rw [Array.toList_push]
      exact List.prefix_append _ _
    | _ => exact List.prefix_refl _
  · rw [names_enact h]
    exact prefix_addNames _ _

theorem Extends.replay (h : w.Tidy) (items : List Item) : w.Extends (w.replay items) :=
  (replay_induction (P := fun v => v.Tidy ∧ w.Extends v)
    (fun _ i hv => ⟨enact_tidy hv.1 i, hv.2.trans (.enact hv.1 i)⟩) items ⟨h, .refl w⟩).2

/-- What is expanded has the same lines and names. -/
theorem Extends.expandAll (h : w.Sound) (patience : Option Nat) : w.Extends (w.expandAll settings patience).1.web := by
  cases hx : w.expanded with
  | true =>
    rw [expandAll_of_expanded settings patience hx]
    exact .refl w
  | false =>
    have hspec := expandAll_spec settings patience hx h.guard
    have hlines : (w.expandAll settings patience).1.web.lines = w.lines := by rw [hspec.frame]
    exact ⟨hlines ▸ List.prefix_refl _, fun k => (hspec.expanding.names k).symm ▸ List.prefix_refl _⟩

/-- **Every call only adds at the end.** -/
theorem Extends.perform (h : w.Sound) (c : Call) : w.Extends (c.perform settings w) := by
  cases c with
  | render ref => exact .refl w
  | expandAll patience => exact .expandAll settings h patience
  | read r =>
    show w.Extends (r.perform settings w)
    cases hx : w.expanded with
    | false =>
      rw [Reading.perform_eq settings r hx]
      have hr : w.Extends (w.replay (r.transcribe settings w.control).items) := .replay h.tidy _
      exact ⟨hr.lines, hr.names⟩
    | true =>
      rcases perform_of_expanded settings hx r with hr | ⟨q, hr⟩
      · rw [hr]
        exact .refl w
      · rw [hr]
        exact .enact h.tidy (.requested q)

/-! ## Well-formed webs -/

/-- What is known of the representation of a web between calls. -/
structure WellFormed (w : Web) : Prop extends Sound w where
  distinct : ∀ k, (w.repository.names k).Nodup
  named : ∀ ref e, w.repository.find? ref = some e → ∀ u, .use u ∈ e.elements.toList → u.Named
  ascending : ∀ ref e, w.repository.find? ref = some e → e.resolved = false → e.indices.Pairwise (· < ·)

namespace WellFormed

theorem empty : WellFormed .empty where
  toSound := sound_empty
  distinct k := by cases k <;> exact List.nodup_nil
  named ref e he := by
    obtain ⟨k, name⟩ := ref
    cases k <;> exact nomatch he
  ascending ref e he := by
    obtain ⟨k, name⟩ := ref
    cases k <;> exact nomatch he

/-- A stored line has the greatest index, so the lines of an entity stay in order when it is added to them. -/
theorem ascending_append (h : w.WellFormed) {ref : Ref} {d : Entity} (hd : w.repository.find? ref = some d)
    (hr : d.resolved = false) {i : Item} {x : Element} (hx : i.pushed w = some x) :
    (d.append x).indices.Pairwise (· < ·) := by
  rw [Entity.indices_append]
  refine List.pairwise_append.mpr ⟨h.ascending ref d hd hr, ?_, fun j hj k hk => ?_⟩
  · cases x with
    | line k => exact List.pairwise_singleton _ k
    | use u => exact .nil
  · cases i with
    | literal text =>
      obtain rfl := Option.some.inj hx
      obtain rfl := List.mem_singleton.mp hk
      exact h.lines ref d hd j (Entity.mem_indices_iff.mp hj)
    | use u =>
      obtain rfl := Option.some.inj hx
      exact absurd hk List.not_mem_nil
    | _ => cases hx

/-- One item keeps a web well-formed. -/
theorem enact (h : w.WellFormed) {i : Item} (hi : i.Named) : (i.enact w).WellFormed := by
  refine ⟨h.toSound.enact i, fun k => ?_, fun ref e he u hu => ?_, fun ref e he hr => ?_⟩
  · rw [names_enact h.tidy]
    exact nodup_addNames (h.distinct k) _
  · rcases find?_enact_cases h.tidy i he with hd | rfl | ⟨d, x, hd, rfl, _, hx⟩
    · exact h.named ref e hd u hu
    · exact absurd hu List.not_mem_nil
    · rw [Entity.toList_append, List.mem_append, List.mem_singleton] at hu
      rcases hu with hu | rfl
      · exact h.named ref d hd u hu
      · cases i with
        | literal text => cases hx
        | use v =>
          obtain rfl := Element.use.inj (Option.some.inj hx)
          exact hi v rfl
        | _ => cases hx
  · rcases find?_enact_cases h.tidy i he with hd | rfl | ⟨d, x, hd, rfl, _, hx⟩
    · exact h.ascending ref e hd hr
    · exact .nil
    · exact h.ascending_append hd hr hx

theorem replay {items : List Item} (h : w.WellFormed) (hi : ∀ i ∈ items, i.Named) : (w.replay items).WellFormed := by
  induction items generalizing w with
  | nil => exact h
  | cons i items ih =>
    exact ih (h.enact (hi i List.mem_cons_self)) fun j hj => hi j (List.mem_cons_of_mem _ hj)

theorem under (h : w.WellFormed) (c : Control) : (w.under c).WellFormed :=
  ⟨h.toSound.under c, h.distinct, h.named, h.ascending⟩

theorem read (h : w.WellFormed) (r : Reading) : (r.perform settings w).WellFormed := by
  cases hx : w.expanded with
  | false =>
    rw [Reading.perform_eq settings r hx]
    refine (h.replay (Reading.transcribe_items settings rule_named w.control fun _ _ _ hu => ?_)).under _
    exact nomatch hu
  | true =>
    rcases perform_of_expanded settings hx r with hr | ⟨q, hr⟩
    · rw [hr]
      exact h
    · rw [hr]
      exact h.enact (i := .requested q) fun _ hu => nomatch hu

/-- Expansion leaves alone what it does not expand, and what it expands takes its uses, if any, from entities that
were expanded before. -/
theorem expandAll (h : w.WellFormed) (patience : Option Nat) : (w.expandAll settings patience).1.web.WellFormed := by
  cases hx : w.expanded with
  | true =>
    rw [expandAll_of_expanded settings patience hx]
    exact h
  | false =>
    have hs := (expandAll_spec settings patience hx h.guard).expanding
    refine ⟨h.toSound.expandAll settings patience, fun k => ?_, fun ref e he u hu => ?_, fun ref e he hr => ?_⟩
    · rw [hs.names]
      exact h.distinct k
    · rcases hs.entity ref with hsame | ⟨d, out, _, _, hout, hf⟩
      · exact h.named ref e (hsame ▸ he) u hu
      · obtain rfl := Option.some.inj (hf.symm.trans he)
        exact hout.forall (P := fun x => ∀ v, x = .use v → v.Named)
          (fun b d hd _ x hx v hv => h.named b d hd v (hv ▸ hx)) (fun _ _ _ _ _ _ hv => nomatch hv)
          (fun _ _ _ hv => nomatch hv) _ hu u rfl
    · exact h.ascending ref e (hs.find?_of_unresolved he hr) hr

theorem perform (h : w.WellFormed) (c : Call) : (c.perform settings w).WellFormed := by
  cases c with
  | read r => exact h.read settings r
  | expandAll patience => exact h.expandAll settings patience
  | render ref => exact h

end WellFormed

/-- **Every web that calls make of an empty one is well-formed.** -/
theorem run_wellFormed (calls : List Call) : (run settings calls .empty).WellFormed :=
  run_induction settings (fun _ c h => h.perform settings c) calls .empty

/-- **The representation of a web.** After any calls, whatever became of them: the names of a namespace are different, and
they are those that have an entity; the open names are different and defined, so that no element that a document pushes
at any moment defines a name; entities mention stored lines, their uses name something, and until they are expanded
their lines are in order; no reference is on the guard. One more call adds lines and names at the end, if at all. -/
theorem run_representation (calls : List Call) :
    let w := run settings calls .empty
    (∀ k, (w.repository.names k).Nodup ∧
      ∀ name, name ∈ w.repository.names k ↔ (w.repository.find? ⟨k, name⟩).isSome) ∧
    (∀ k, (w.opened.get k).Nodup ∧ ∀ name ∈ w.opened.get k, name ∈ w.repository.names k) ∧
    (∀ items e k, ((w.replay items).push e).repository.names k = (w.replay items).repository.names k) ∧
    (∀ ref e, w.repository.find? ref = some e →
      (∀ i, .line i ∈ e.elements.toList → i < w.lines.size) ∧
      (∀ u, .use u ∈ e.elements.toList → u.names ≠ [] ∧ ∀ name ∈ u.names, name ≠ []) ∧
      (e.resolved = false → e.indices.Pairwise (· < ·))) ∧
    w.guard = [] ∧
    ∀ c : Call, w.lines.toList <+: (c.perform settings w).lines.toList ∧
      ∀ k, w.repository.names k <+: (c.perform settings w).repository.names k := by
  intro w
  have hw : w.WellFormed := run_wellFormed settings calls
  refine ⟨fun k => ⟨hw.distinct k, fun name => ?_⟩, fun k => ⟨hw.tidy.nodup k, hw.tidy.defined k⟩,
    fun items e k => names_push (replay_tidy hw.tidy items) e k, fun ref e he => ?_, hw.guard, fun c => ?_⟩
  · exact (Repository.isSome_find?_iff w.repository ⟨k, name⟩).symm
  · refine ⟨hw.lines ref e he, fun u hu => ?_, hw.ascending ref e he⟩
    have hu := hw.named ref e he u hu
    exact ⟨hu.ne_nil, hu.nonempty⟩
  · have hc := Extends.perform settings hw.toSound c
    exact ⟨hc.lines, hc.names⟩

end Web

end Literate
