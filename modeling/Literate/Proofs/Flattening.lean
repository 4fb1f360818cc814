import Literate.Proofs.Repository

/-!
# Flattening and half-expanded repositories

The elements of an entity are read piece by piece: a use is a piece for each name that it mentions. What pieces stand
for in a repository is said without any memory of what was expanded before (`Unfolds`): a mention of an expanded
entity stands for its elements, and any other one for what the pieces of its entity stand for.

While references are expanded, a repository holds some entities as they were and some in their expanded form
(`Expanding`). Pieces stand for the same elements in both repositories (`Expanding.unfolds`), so expanding a
half-expanded repository further is expanding the first one (`Expanding.trans`).
-/

namespace Literate

/-! ## Pieces -/

/-- The smallest parts of an entity. -/
inductive Piece where
  /-- The stored line with this index. -/
  | line (index : Nat)
  /-- A reference, and the use that mentions it. -/
  | mention (ref : Ref) (source : Use)

/-- The pieces of an element. -/
def Element.pieces : Element → List Piece
  | line i => [.line i]
  | use u => u.refs.map (.mention · u)

/-- The pieces of elements. -/
def piecesOf (elements : List Element) : List Piece := elements.flatMap Element.pieces

/-- The pieces of an entity. -/
def Entity.pieces (e : Entity) : List Piece := piecesOf e.elements.toList

theorem mem_pieces_line {elements : List Element} {i : Nat} : .line i ∈ piecesOf elements ↔ .line i ∈ elements := by
  simp only [piecesOf, List.mem_flatMap]
  constructor
  · rintro ⟨e, he, hi⟩
    cases e with
    | line j =>
      obtain rfl : i = j := by simpa [Element.pieces] using hi
      exact he
    | use u => simp [Element.pieces] at hi
  · intro h
    exact ⟨_, h, by simp [Element.pieces]⟩

theorem mem_pieces_mention {elements : List Element} {ref : Ref} {u : Use} :
    .mention ref u ∈ piecesOf elements ↔ .use u ∈ elements ∧ ref ∈ u.refs := by
  simp only [piecesOf, List.mem_flatMap]
  constructor
  · rintro ⟨e, he, hm⟩
    cases e with
    | line j => simp [Element.pieces] at hm
    | use v =>
      obtain ⟨a, ha, rfl, rfl⟩ : ∃ a ∈ v.refs, a = ref ∧ v = u := by simpa [Element.pieces] using hm
      exact ⟨he, ha⟩
  · rintro ⟨hu, hr⟩
    exact ⟨_, hu, by simpa [Element.pieces] using hr⟩

/-! ## What pieces stand for -/

/-- What pieces stand for: the elements of an expanded entity are taken as they are, and what any other entity stands
for is found out anew wherever it is mentioned. -/
inductive Unfolds (r : Repository) : List Piece → List Element → Prop
  | nil : Unfolds r [] []
  | line {i rest out} : Unfolds r rest out → Unfolds r (.line i :: rest) (.line i :: out)
  | expanded {ref u e rest out} : r.find? ref = some e → e.resolved = true → Unfolds r rest out →
      Unfolds r (.mention ref u :: rest) (e.elements.toList ++ out)
  | inside {ref u e sub rest out} : r.find? ref = some e → e.resolved = false → Unfolds r e.pieces sub →
      Unfolds r rest out → Unfolds r (.mention ref u :: rest) (sub ++ out)

/-- What a reference stands for. -/
def Yields (r : Repository) (ref : Ref) (out : List Element) : Prop :=
  ∃ e, r.find? ref = some e ∧
    ((e.resolved = true ∧ out = e.elements.toList) ∨ (e.resolved = false ∧ Unfolds r e.pieces out))

/-- No entity is expanded. -/
def Repository.Unexpanded (r : Repository) : Prop := ∀ ref e, r.find? ref = some e → e.resolved = false

section Unfolding

variable {r : Repository}

/-- A mention stands for what its reference does. -/
theorem unfolds_mention_iff {ref : Ref} {u : Use} {rest : List Piece} {out : List Element} :
    Unfolds r (.mention ref u :: rest) out ↔
      ∃ sub more, Yields r ref sub ∧ Unfolds r rest more ∧ out = sub ++ more := by
  constructor
  · intro h
    cases h with
    | expanded he hr hrest => exact ⟨_, _, ⟨_, he, Or.inl ⟨hr, rfl⟩⟩, hrest, rfl⟩
    | inside he hr hsub hrest => exact ⟨_, _, ⟨_, he, Or.inr ⟨hr, hsub⟩⟩, hrest, rfl⟩
  · rintro ⟨sub, more, ⟨e, he, ⟨hr, rfl⟩ | ⟨hr, hsub⟩⟩, hrest, rfl⟩
    · exact .expanded he hr hrest
    · exact .inside he hr hsub hrest

theorem Unfolds.append {ps qs : List Piece} {out more : List Element} (h : Unfolds r ps out) (h' : Unfolds r qs more) :
    Unfolds r (ps ++ qs) (out ++ more) := by
  induction h with
  | nil => exact h'
  | line _ ih => exact .line ih
  | expanded he hr _ ih =>
    rw [List.append_assoc]
    exact .expanded he hr ih
  | inside he hr hsub _ _ ih =>
    rw [List.append_assoc]
    exact .inside he hr hsub ih

/-- Pieces stand for one thing only. -/
theorem Unfolds.unique {ps : List Piece} {out more : List Element} (h : Unfolds r ps out) (h' : Unfolds r ps more) :
    out = more := by
  induction h generalizing more with
  | nil =>
    cases h'
    rfl
  | line _ ih =>
    cases h' with
    | line hrest => rw [ih hrest]
  | expanded he hr _ ih =>
    cases h' with
    | expanded he' _ hrest =>
      obtain rfl := Option.some.inj (he.symm.trans he')
      rw [ih hrest]
    | inside he' hr' _ _ =>
      obtain rfl := Option.some.inj (he.symm.trans he')
      exact absurd (hr.symm.trans hr') Bool.noConfusion
  | inside he hr _ _ ihsub ih =>
    cases h' with
    | expanded he' hr' _ =>
      obtain rfl := Option.some.inj (he.symm.trans he')
      exact absurd (hr.symm.trans hr') Bool.noConfusion
    | inside he' _ hsub hrest =>
      obtain rfl := Option.some.inj (he.symm.trans he')
      rw [ihsub hsub, ih hrest]

/-- Every mention among pieces that stand for something stands for something. -/
theorem Unfolds.yields {ps : List Piece} {out : List Element} (h : Unfolds r ps out) {ref : Ref} {u : Use}
    (hm : .mention ref u ∈ ps) : ∃ sub, Yields r ref sub := by
  induction ps generalizing out with
  | nil => exact absurd hm List.not_mem_nil
  | cons p ps ih =>
    rcases List.mem_cons.mp hm with rfl | hp
    · obtain ⟨sub, _, hsub, _, _⟩ := unfolds_mention_iff.mp h
      exact ⟨sub, hsub⟩
    · cases h with
      | line hrest => exact ih hrest hp
      | expanded _ _ hrest => exact ih hrest hp
      | inside _ _ _ hrest => exact ih hrest hp

/-- What holds of every line, and of every element of an expanded entity, holds of what pieces stand for. -/
theorem Unfolds.forall {P : Element → Prop}
    (hr : ∀ ref e, r.find? ref = some e → e.resolved = true → ∀ x ∈ e.elements.toList, P x)
    (hl : ∀ ref e, r.find? ref = some e → ∀ i, .line i ∈ e.elements.toList → P (.line i))
    {ps : List Piece} {out : List Element} (h : Unfolds r ps out) (hp : ∀ i, .line i ∈ ps → P (.line i)) :
    ∀ x ∈ out, P x := by
  induction h with
  | nil => exact fun x hx => absurd hx List.not_mem_nil
  | line _ ih =>
    intro x hx
    rcases List.mem_cons.mp hx with rfl | hx
    · exact hp _ List.mem_cons_self
    · exact ih (fun j hj => hp j (List.mem_cons_of_mem _ hj)) x hx
  | expanded he hres _ ih =>
    intro x hx
    rcases List.mem_append.mp hx with hx | hx
    · exact hr _ _ he hres x hx
    · exact ih (fun j hj => hp j (List.mem_cons_of_mem _ hj)) x hx
  | inside he _ _ _ ihsub ih =>
    intro x hx
    rcases List.mem_append.mp hx with hx | hx
    · exact ihsub (fun j hj => hl _ _ he j (mem_pieces_line.mp hj)) x hx
    · exact ih (fun j hj => hp j (List.mem_cons_of_mem _ hj)) x hx

end Unfolding

/-! ## Half-expanded repositories -/

/-- A repository in which some entities of another are expanded, and nothing else is different. -/
structure Expanding (r r' : Repository) : Prop where
  names : ∀ k, r'.names k = r.names k
  entity : ∀ ref, r'.find? ref = r.find? ref ∨ ∃ e out, r.find? ref = some e ∧ e.resolved = false ∧
    Unfolds r e.pieces out ∧ r'.find? ref = some ⟨out.toArray, true⟩

namespace Expanding

variable {r r' r'' : Repository}

theorem refl (r : Repository) : Expanding r r := ⟨fun _ => rfl, fun _ => Or.inl rfl⟩

/-- An expanded entity stays what it is. -/
theorem find?_of_resolved (h : Expanding r r') {ref : Ref} {e : Entity} (he : r.find? ref = some e)
    (hr : e.resolved = true) : r'.find? ref = some e := by
  rcases h.entity ref with hs | ⟨d, _, hd, hdr, _⟩
  · rw [hs, he]
  · obtain rfl := Option.some.inj (hd.symm.trans he)
    exact absurd (hr.symm.trans hdr) Bool.noConfusion

/-- An entity that is not expanded was so from the beginning. -/
theorem find?_of_unresolved (h : Expanding r r') {ref : Ref} {e : Entity} (he : r'.find? ref = some e)
    (hr : e.resolved = false) : r.find? ref = some e := by
  rcases h.entity ref with hs | ⟨_, _, _, _, _, hd⟩
  · rw [← hs, he]
  · obtain rfl := Option.some.inj (hd.symm.trans he)
    exact absurd hr Bool.noConfusion

theorem isSome_find? (h : Expanding r r') (ref : Ref) : (r'.find? ref).isSome ↔ (r.find? ref).isSome := by
  rw [Repository.isSome_find?_iff, Repository.isSome_find?_iff, h.names]

theorem refs (h : Expanding r r') : r'.refs = r.refs := Repository.refs_congr h.names

/-- An expanded entity holds what its reference stood for. -/
theorem yields_of_resolved (h : Expanding r r') {ref : Ref} {e : Entity} (he : r'.find? ref = some e)
    (hr : e.resolved = true) : Yields r ref e.elements.toList := by
  rcases h.entity ref with hs | ⟨d, out, hd, hdr, hout, hf⟩
  · exact ⟨e, by rw [← hs, he], Or.inl ⟨hr, rfl⟩⟩
  · obtain rfl := Option.some.inj (hf.symm.trans he)
    exact ⟨d, hd, Or.inr ⟨hdr, hout⟩⟩

/-- **Pieces stand for what they stood for before anything was expanded.** -/
theorem unfolds (h : Expanding r r') {ps : List Piece} {out : List Element} (hu : Unfolds r' ps out) :
    Unfolds r ps out := by
  induction hu with
  | nil => exact .nil
  | line _ ih => exact .line ih
  | expanded he hr _ ih => exact unfolds_mention_iff.mpr ⟨_, _, h.yields_of_resolved he hr, ih, rfl⟩
  | inside he hr _ _ ihsub ih => exact .inside (h.find?_of_unresolved he hr) hr ihsub ih

theorem yields (h : Expanding r r') {ref : Ref} {out : List Element} (hy : Yields r' ref out) : Yields r ref out := by
  obtain ⟨e, he, ⟨hr, rfl⟩ | ⟨hr, hu⟩⟩ := hy
  · exact h.yields_of_resolved he hr
  · exact ⟨e, h.find?_of_unresolved he hr, Or.inr ⟨hr, h.unfolds hu⟩⟩

theorem trans (h : Expanding r r') (h' : Expanding r' r'') : Expanding r r'' := by
  refine ⟨fun k => (h'.names k).trans (h.names k), fun ref => ?_⟩
  rcases h'.entity ref with hs | ⟨e, out, he, hr, hu, hf⟩
  · rcases h.entity ref with hs' | ⟨e, out, he, hr, hu, hf⟩
    · exact Or.inl (hs.trans hs')
    · exact Or.inr ⟨e, out, he, hr, hu, hs.trans hf⟩
  · exact Or.inr ⟨e, out, h.find?_of_unresolved he hr, hr, h.unfolds hu, hf⟩

/-- One more entity is expanded. -/
theorem update (h : Expanding r r') {ref : Ref} {e : Entity} {out : Array Element} (he : r.find? ref = some e)
    (hr : e.resolved = false) (hu : Unfolds r e.pieces out.toList) :
    Expanding r (r'.update ref fun _ => ⟨out, true⟩) ∧
      (r'.update ref fun _ => ⟨out, true⟩).find? ref = some ⟨out, true⟩ := by
  have hf : (r'.update ref fun _ => ⟨out, true⟩).find? ref = some ⟨out, true⟩ := by
    have hs : (r'.find? ref).isSome := (h.isSome_find? ref).mpr (by rw [he]; rfl)
    obtain ⟨d, hd⟩ := Option.isSome_iff_exists.mp hs
    rw [Repository.find?_update, if_pos rfl, hd]
    rfl
  refine ⟨⟨fun k => ?_, fun b => ?_⟩, hf⟩
  · rw [Repository.names_update]
    exact h.names k
  · by_cases hb : b = ref
    · subst hb
      exact Or.inr ⟨e, out.toList, he, hr, hu, hf⟩
    · rw [Repository.find?_update, if_neg hb]
      exact h.entity b

end Expanding

end Literate
