import Literate.Proofs.Repository
import Literate.Proofs.Transcript

/-!
# Open names

A name is open from a directive that begins it to one that ends it. The open names of a namespace are different from
each other and defined (`Web.Tidy`); every item keeps this (`enact_tidy`). So an element that is pushed reaches every
open name once, and no other, and never defines a name (`find?_push`, `names_push`).
-/

namespace Literate

/-! ## Adding names to a list -/

/-- The names of a list, and after them those that are new. -/
def addNames (s names : List Text) : List Text :=
  names.foldl (fun (s : List Text) name => if s.contains name then s else s ++ [name]) s

theorem addNames_cons (s names : List Text) (name : Text) :
    addNames s (name :: names) = addNames (if name ∈ s then s else s ++ [name]) names := by
  simp only [addNames, List.foldl_cons, List.contains_iff_mem]

theorem mem_addNames {s names : List Text} {a : Text} : a ∈ addNames s names ↔ a ∈ s ∨ a ∈ names := by
  induction names generalizing s with
  | nil => simp [addNames]
  | cons name names ih =>
    rw [addNames_cons, ih, List.mem_cons]
    split
    · rename_i hs
      constructor
      · rintro (h | h)
        · exact Or.inl h
        · exact Or.inr (Or.inr h)
      · rintro (h | rfl | h)
        · exact Or.inl h
        · exact Or.inl hs
        · exact Or.inr h
    · rw [List.mem_append, List.mem_singleton, or_assoc]

theorem nodup_addNames {s : List Text} (h : s.Nodup) (names : List Text) : (addNames s names).Nodup := by
  induction names generalizing s with
  | nil => exact h
  | cons name names ih =>
    rw [addNames_cons]
    split
    · exact ih h
    · rename_i hs
      exact ih (List.nodup_append.mpr ⟨h, by simp, fun a ha b hb => by
        rw [List.mem_singleton] at hb
        rintro rfl
        exact hs (hb ▸ ha)⟩)

/-- Names are added at the end. -/
theorem prefix_addNames (s names : List Text) : s <+: addNames s names := by
  induction names generalizing s with
  | nil => exact List.prefix_refl s
  | cons name names ih =>
    rw [addNames_cons]
    split
    · exact ih s
    · exact (List.prefix_append s [name]).trans (ih _)

/-- Adding names one after another keeps the first of each. -/
theorem addNames_eraseDups (xs names : List Text) : addNames xs.eraseDups names = (xs ++ names).eraseDups := by
  induction names generalizing xs with
  | nil => simp [addNames]
  | cons name names ih =>
    have h : (if name ∈ xs.eraseDups then xs.eraseDups else xs.eraseDups ++ [name]) = (xs ++ [name]).eraseDups := by
      rw [List.eraseDups_append]
      by_cases hx : name ∈ xs <;> simp [List.mem_eraseDups, List.removeAll, hx, List.eraseDups_cons]
    rw [addNames_cons, h, ih, List.append_assoc, List.singleton_append]

namespace Repository

/-- A repository in which names are defined one after another. -/
def defineAll (r : Repository) (k : Kind) (names : List Text) : Repository :=
  names.foldl (fun r name => r.define ⟨k, name⟩) r

theorem find?_defineAll (r : Repository) (k : Kind) (names : List Text) (b : Ref) :
    (r.defineAll k names).find? b =
      if b.kind = k ∧ b.name ∈ names then some ((r.find? b).getD .empty) else r.find? b := by
  induction names generalizing r with
  | nil => simp [defineAll]
  | cons name names ih =>
    have ih := ih (r.define ⟨k, name⟩)
    simp only [defineAll, List.foldl_cons] at ih ⊢
    rw [ih, find?_define]
    obtain ⟨kb, nb⟩ := b
    by_cases hk : kb = k
    · by_cases hb : nb = name <;> simp [hk, hb]
    · simp [hk]

theorem names_defineAll (r : Repository) (k : Kind) (names : List Text) (l : Kind) :
    (r.defineAll k names).names l = if l = k then addNames (r.names l) names else r.names l := by
  induction names generalizing r with
  | nil => simp [defineAll, addNames]
  | cons name names ih =>
    have ih := ih (r.define ⟨k, name⟩)
    simp only [defineAll, List.foldl_cons] at ih ⊢
    rw [ih, names_define, addNames_cons]
    by_cases hl : l = k
    · by_cases hm : name ∈ r.names k <;> simp [hl, hm]
    · simp [hl]

end Repository

/-! ## Webs with tidy open names -/

namespace Web

/-- The open names of each namespace are different and defined. -/
structure Tidy (w : Web) : Prop where
  nodup : ∀ k, (w.opened.get k).Nodup
  defined : ∀ k, ∀ name ∈ w.opened.get k, name ∈ w.repository.names k

theorem tidy_empty : Tidy .empty :=
  ⟨fun k => by cases k <;> exact List.nodup_nil, fun k _ h => by cases k <;> exact absurd h List.not_mem_nil⟩

variable {w : Web}

theorem repository_push (w : Web) (e : Element) : (w.push e).repository =
    (w.repository.pushAll .chunk (w.opened.get .chunk) e).pushAll .stream (w.opened.get .stream) e := rfl

/-- A pushed element reaches every open name once. -/
theorem find?_push (h : w.Tidy) (e : Element) (b : Ref) :
    (w.push e).repository.find? b =
      if b.name ∈ w.opened.get b.kind then some (((w.repository.find? b).getD .empty).append e)
      else w.repository.find? b := by
  rw [repository_push, Repository.find?_pushAll _ _ _ (h.nodup .stream),
    Repository.find?_pushAll _ _ _ (h.nodup .chunk)]
  obtain ⟨k, name⟩ := b
  cases k <;> simp

theorem names_push (h : w.Tidy) (e : Element) (k : Kind) : (w.push e).repository.names k = w.repository.names k := by
  have hc := Repository.names_pushAll_of_mem w.repository .chunk (h.defined .chunk) e
  have hs := Repository.names_pushAll_of_mem (w.repository.pushAll .chunk (w.opened.get .chunk) e) .stream
    (fun name hn => by rw [hc]; exact h.defined .stream name hn) e
  rw [repository_push, hs, hc]

theorem get_opened_openNames (w : Web) (k : Kind) (names : List Text) (l : Kind) :
    (w.openNames k names).opened.get l = if l = k then addNames (w.opened.get l) names else w.opened.get l := by
  unfold openNames
  by_cases hl : l = k
  · subst hl; rw [PerKind.get_modify_self, if_pos rfl]; rfl
  · rw [PerKind.get_modify_of_ne _ _ hl, if_neg hl]

theorem get_opened_closeNames (w : Web) (k : Kind) (names : List Text) (l : Kind) :
    (w.closeNames k names).opened.get l =
      if l = k then (w.opened.get l).filter (!names.contains ·) else w.opened.get l := by
  unfold closeNames
  by_cases hl : l = k
  · subst hl; rw [PerKind.get_modify_self, if_pos rfl]
  · rw [PerKind.get_modify_of_ne _ _ hl, if_neg hl]

/-- Pushing leaves the open names alone. -/
theorem Tidy.push (h : w.Tidy) (e : Element) : (w.push e).Tidy :=
  ⟨h.nodup, fun k name hn => by rw [names_push h]; exact h.defined k name hn⟩

theorem Tidy.openNames (h : w.Tidy) (k : Kind) (names : List Text) : (w.openNames k names).Tidy := by
  have hr : (w.openNames k names).repository = w.repository.defineAll k names := rfl
  refine ⟨fun l => ?_, fun l name hn => ?_⟩
  · rw [get_opened_openNames]
    split
    · exact nodup_addNames (h.nodup l) names
    · exact h.nodup l
  · rw [get_opened_openNames] at hn
    rw [hr, Repository.names_defineAll]
    by_cases hl : l = k
    · rw [if_pos hl, mem_addNames] at hn ⊢
      exact hn.imp (h.defined l name) id
    · rw [if_neg hl] at hn ⊢
      exact h.defined l name hn

theorem Tidy.closeNames (h : w.Tidy) (k : Kind) (names : List Text) : (w.closeNames k names).Tidy := by
  refine ⟨fun l => ?_, fun l name hn => ?_⟩
  · rw [get_opened_closeNames]
    split
    · exact (h.nodup l).filter _
    · exact h.nodup l
  · rw [get_opened_closeNames] at hn
    split at hn
    · exact h.defined l name (List.mem_filter.mp hn).1
    · exact h.defined l name hn

/-- Every item keeps the open names tidy. -/
theorem enact_tidy (h : w.Tidy) (i : Item) : (i.enact w).Tidy := by
  cases i with
  | literal text => exact Tidy.push (w := { w with lines := w.lines.push text }) ⟨h.nodup, h.defined⟩ _
  | use u => exact h.push _
  | opened k names => exact h.openNames k names
  | closed k names => exact h.closeNames k names
  | requested r => exact ⟨h.nodup, h.defined⟩

theorem replay_tidy (h : w.Tidy) (items : List Item) : (w.replay items).Tidy :=
  replay_induction (P := Tidy) (fun _ i h => enact_tidy h i) items h

end Web

end Literate
