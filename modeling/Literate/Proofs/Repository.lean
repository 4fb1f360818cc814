import Literate.Repository

/-!
# Looking up what was defined, replaced and pushed

What the operations of a repository do is seen through two views, and after this module nothing else looks into a
namespace: the entity of a reference (`find?_define`, `find?_update`, `find?_push`, `find?_pushAll`), and the names of
a namespace in their order (`names_define`, `names_update`, `names_push`, `names_pushAll`).
-/

namespace Literate

/-! ## One namespace -/

namespace Namespace

variable (ns : Namespace) (a b : Text)

theorem find?_cons (name : Text) (e : Entity) (a : Text) :
    find? ((name, e) :: ns) a = if a = name then some e else find? ns a := by
  unfold find?
  rw [List.lookup_cons]
  by_cases h : a = name
  · simp [h]
  · rw [if_neg h, beq_eq_false_iff_ne.mpr h]

theorem isSome_find?_iff : (find? ns a).isSome ↔ a ∈ names ns := by
  induction ns with
  | nil => simp [find?, names]
  | cons e ns ih =>
    obtain ⟨name, e⟩ := e
    rw [find?_cons]
    by_cases h : a = name <;> simp_all [names]

theorem find?_append_one (e : Entity) :
    find? (ns ++ [(a, e)]) b = (find? ns b).or (if b = a then some e else none) := by
  induction ns with
  | nil => rw [List.nil_append, find?_cons]; rfl
  | cons d ns ih =>
    obtain ⟨name, d⟩ := d
    rw [List.cons_append, find?_cons, find?_cons, ih]
    by_cases h : b = name <;> simp [h]

/-- Defining a name gives it an entity if it has none, and leaves all other names alone. -/
theorem find?_define :
    find? (define ns a) b = if b = a then some ((find? ns a).getD .empty) else find? ns b := by
  unfold define
  by_cases h : b = a
  · subst h
    cases hf : find? ns b with
    | none => simp [hf, find?_append_one]
    | some e => simp [hf]
  · rw [if_neg h]
    split
    · rfl
    · simp [find?_append_one, h]

theorem names_define : names (define ns a) = if a ∈ names ns then names ns else names ns ++ [a] := by
  have h := isSome_find?_iff ns a
  unfold define
  by_cases ha : a ∈ names ns
  · rw [if_pos (h.mpr ha), if_pos ha]
  · rw [if_neg (fun hs => ha (h.mp hs)), if_neg ha]
    simp [names]

/-- Replacing an entity changes what its own name stands for, and nothing else. -/
theorem find?_update (f : Entity → Entity) :
    find? (update ns a f) b = if b = a then (find? ns a).map f else find? ns b := by
  induction ns with
  | nil => simp [update, find?]
  | cons e ns ih =>
    obtain ⟨name, e⟩ := e
    simp only [update, List.map_cons] at ih ⊢
    by_cases hn : name = a
    · subst hn
      by_cases hb : b = name <;> simp [find?_cons, ih, hb]
    · rw [if_neg hn, find?_cons, find?_cons, find?_cons, ih, if_neg (Ne.symm hn)]
      by_cases hb : b = name
      · subst hb; simp [hn]
      · simp [hb]

@[simp] theorem names_update (f : Entity → Entity) : names (update ns a f) = names ns := by
  simp only [names, update, List.map_map]
  refine List.map_congr_left fun e _ => ?_
  simp only [Function.comp]
  split <;> rfl

end Namespace

/-! ## Both namespaces -/

/-- An entity with one more element at its end. -/
def Entity.append (entity : Entity) (e : Element) : Entity :=
  { entity with elements := entity.elements.push e }

namespace Repository

variable (r : Repository) (a b : Ref)

/-- References of one namespace differ by their names. -/
theorem ref_ne_iff {a b : Ref} (h : b.kind = a.kind) : b = a ↔ b.name = a.name := by
  obtain ⟨ka, na⟩ := a
  obtain ⟨kb, nb⟩ := b
  simp_all

theorem find?_define : (r.define a).find? b = if b = a then some ((r.find? a).getD .empty) else r.find? b := by
  unfold define find?
  by_cases hk : b.kind = a.kind
  · simp only [hk, PerKind.get_modify_self, Namespace.find?_define, ref_ne_iff hk]
  · rw [PerKind.get_modify_of_ne _ _ hk, if_neg (fun h => hk (by rw [h]))]

theorem find?_update (f : Entity → Entity) :
    (r.update a f).find? b = if b = a then (r.find? a).map f else r.find? b := by
  unfold update find?
  by_cases hk : b.kind = a.kind
  · simp only [hk, PerKind.get_modify_self, Namespace.find?_update, ref_ne_iff hk]
  · rw [PerKind.get_modify_of_ne _ _ hk, if_neg (fun h => hk (by rw [h]))]

theorem find?_push (e : Element) :
    (r.push a e).find? b = if b = a then some (((r.find? a).getD .empty).append e) else r.find? b := by
  unfold push
  rw [find?_update, find?_define]
  by_cases h : b = a
  · simp [h, Entity.append]
  · simp [h, find?_define]

/-- An element pushed to different names of a namespace reaches each of them once. -/
theorem find?_pushAll (k : Kind) {names : List Text} (hn : names.Nodup) (e : Element) :
    (r.pushAll k names e).find? b =
      if b.kind = k ∧ b.name ∈ names then some (((r.find? b).getD .empty).append e) else r.find? b := by
  induction names generalizing r with
  | nil => simp [pushAll]
  | cons name names ih =>
    obtain ⟨hname, hn⟩ := List.nodup_cons.mp hn
    have ih := ih (r.push ⟨k, name⟩ e) hn
    simp only [pushAll, List.foldl_cons] at ih ⊢
    rw [ih, find?_push]
    obtain ⟨kb, nb⟩ := b
    by_cases hk : kb = k
    · subst hk
      by_cases hb : nb = name
      · subst hb; simp [hname]
      · simp [hb]
    · simp [hk]

/-! ## Names -/

theorem names_define (k : Kind) :
    (r.define a).names k = if k = a.kind ∧ a.name ∉ r.names k then r.names k ++ [a.name] else r.names k := by
  unfold define names
  by_cases hk : k = a.kind
  · subst hk
    rw [PerKind.get_modify_self, Namespace.names_define]
    by_cases hm : a.name ∈ Namespace.names (r.get a.kind) <;> simp [hm]
  · rw [PerKind.get_modify_of_ne _ _ hk, if_neg (fun h => hk h.1)]

@[simp] theorem names_update (f : Entity → Entity) (k : Kind) : (r.update a f).names k = r.names k := by
  unfold update names
  by_cases hk : k = a.kind
  · subst hk; simp
  · rw [PerKind.get_modify_of_ne _ _ hk]

/-- The defined references are those whose names are listed. -/
theorem isSome_find?_iff : (r.find? a).isSome ↔ a.name ∈ r.names a.kind := Namespace.isSome_find?_iff _ _

theorem has_iff : r.has a ↔ a.name ∈ r.names a.kind := isSome_find?_iff r a

theorem mem_refs_iff : a ∈ r.refs ↔ (r.find? a).isSome := by
  rw [isSome_find?_iff]
  obtain ⟨k, name⟩ := a
  cases k <;> simp [refs]

/-- Repositories are compared by looking at what is defined in one of them. -/
theorem find?_ext {r r' : Repository} (h : ∀ a ∈ r.refs, r'.find? a = r.find? a)
    (h' : ∀ a ∈ r'.refs, r'.find? a = r.find? a) (a : Ref) : r'.find? a = r.find? a := by
  by_cases hr : a ∈ r.refs
  · exact h a hr
  · by_cases hr' : a ∈ r'.refs
    · exact h' a hr'
    · rw [mem_refs_iff, Option.not_isSome_iff_eq_none] at hr hr'
      rw [hr, hr']

theorem names_push_of_mem (e : Element) (h : a.name ∈ r.names a.kind) (k : Kind) :
    (r.push a e).names k = r.names k := by
  unfold push
  rw [names_update, names_define, if_neg]
  rintro ⟨rfl, hm⟩
  exact hm h

/-- Pushing to defined names defines nothing. -/
theorem names_pushAll_of_mem (k : Kind) {names : List Text} (h : ∀ name ∈ names, name ∈ r.names k) (e : Element)
    (l : Kind) : (r.pushAll k names e).names l = r.names l := by
  induction names generalizing r with
  | nil => rfl
  | cons name names ih =>
    have hp := names_push_of_mem r ⟨k, name⟩ e (h name List.mem_cons_self)
    have ih := ih (r.push ⟨k, name⟩ e) (fun n hn => by rw [hp]; exact h n (List.mem_cons_of_mem _ hn))
    simp only [pushAll, List.foldl_cons] at ih ⊢
    rw [ih, hp]

/-- Repositories with the same names define the same references, in the same order. -/
theorem refs_congr {r r' : Repository} (h : ∀ k, r.names k = r'.names k) : r.refs = r'.refs := by
  simp only [refs, h]

end Repository

end Literate
