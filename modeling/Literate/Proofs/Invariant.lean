import Literate.Proofs.Expansion
import Literate.Proofs.OpenNames

/-!
# What every call keeps

Between calls no reference is on the guard, the open names are tidy, and every line that an entity mentions is stored
(`Web.Sound`). One item keeps this (`Sound.enact`), and so does expansion, hence every call (`Sound.perform`) and
every sequence of calls (`run_sound`). The entities that an item leaves behind are those of before, with one more
element where a name is open (`find?_enact_cases`).
-/

namespace Literate

/-! ## One item -/

/-- The element that an item adds to what is open. -/
def Item.pushed (w : Web) : Item → Option Element
  | literal _ => some (.line w.lines.size)
  | use u => some (.use u)
  | _ => none

namespace Web

variable {w : Web}

/-- What an item adds reaches every open name. -/
theorem find?_enact_of_pushed (h : w.Tidy) {i : Item} {x : Element} (hx : i.pushed w = some x) (ref : Ref) :
    (i.enact w).repository.find? ref =
      if ref.name ∈ w.opened.get ref.kind then some (((w.repository.find? ref).getD .empty).append x)
      else w.repository.find? ref := by
  cases i with
  | literal text =>
    obtain rfl : .line w.lines.size = x := Option.some.inj hx
    have ht : Tidy { w with lines := w.lines.push text } := ⟨h.nodup, h.defined⟩
    exact find?_push ht _ ref
  | use u =>
    obtain rfl : .use u = x := Option.some.inj hx
    exact find?_push h _ ref
  | _ => cases hx

/-- An item that adds nothing defines names, if it does anything to entities. -/
theorem find?_enact_of_not_pushed {i : Item} (hx : i.pushed w = none) (ref : Ref) :
    (i.enact w).repository.find? ref = w.repository.find? ref ∨
      (w.repository.find? ref = none ∧ (i.enact w).repository.find? ref = some .empty) := by
  cases i with
  | literal text => cases hx
  | use u => cases hx
  | opened k names =>
    rw [show (Item.enact w (.opened k names)).repository = w.repository.defineAll k names from rfl,
      Repository.find?_defineAll]
    split
    · cases hd : w.repository.find? ref with
      | none => exact Or.inr ⟨rfl, rfl⟩
      | some d => exact Or.inl rfl
    · exact Or.inl rfl
  | closed k names => exact Or.inl rfl
  | requested r => exact Or.inl rfl

/-- Where an entity comes from after an item. -/
theorem find?_enact_cases (h : w.Tidy) (i : Item) {ref : Ref} {e : Entity}
    (he : (i.enact w).repository.find? ref = some e) :
    w.repository.find? ref = some e ∨ e = .empty ∨ ∃ d x, w.repository.find? ref = some d ∧ e = d.append x ∧
      ref.name ∈ w.opened.get ref.kind ∧ i.pushed w = some x := by
  cases hx : i.pushed w with
  | some x =>
    rw [find?_enact_of_pushed h hx] at he
    split at he
    · rename_i hm
      have hs := (Repository.isSome_find?_iff w.repository ref).mpr (h.defined ref.kind ref.name hm)
      obtain ⟨d, hd⟩ := Option.isSome_iff_exists.mp hs
      rw [hd] at he
      exact Or.inr (Or.inr ⟨d, x, hd, (Option.some.inj he).symm, hm, rfl⟩)
    · exact Or.inl he
  | none =>
    rcases find?_enact_of_not_pushed hx ref with hf | ⟨_, hf⟩
    · exact Or.inl (hf.symm.trans he)
    · exact Or.inr (Or.inl (Option.some.inj (he.symm.trans hf)))

/-- What becomes of an entity: it has the same flag, and all of its elements. -/
theorem find?_enact_of_some (h : w.Tidy) (i : Item) {ref : Ref} {d : Entity} (hd : w.repository.find? ref = some d) :
    ∃ e, (i.enact w).repository.find? ref = some e ∧ e.resolved = d.resolved ∧
      ∀ x ∈ d.elements.toList, x ∈ e.elements.toList := by
  cases hx : i.pushed w with
  | some x =>
    rw [find?_enact_of_pushed h hx, hd]
    split
    · exact ⟨d.append x, rfl, rfl, fun y hy => by simp [Entity.append, hy]⟩
    · exact ⟨d, rfl, rfl, fun y hy => hy⟩
  | none =>
    rcases find?_enact_of_not_pushed hx ref with hf | ⟨hn, _⟩
    · exact ⟨d, hf.trans hd, rfl, fun y hy => hy⟩
    · exact absurd (hd.symm.trans hn) (Option.some_ne_none d)

end Web

/-! ## The invariant -/

/-- Every line that an entity mentions is one of the first `n`. -/
def Repository.LinesBelow (n : Nat) (r : Repository) : Prop :=
  ∀ ref e, r.find? ref = some e → ∀ i, .line i ∈ e.elements.toList → i < n

theorem Expanding.linesBelow {r r' : Repository} (h : Expanding r r') {n : Nat} (hr : r.LinesBelow n) :
    r'.LinesBelow n := by
  intro ref e he i hi
  rcases h.entity ref with hs | ⟨d, out, hd, _, hu, hf⟩
  · exact hr ref e (by rw [← hs, he]) i hi
  · obtain rfl := Option.some.inj (hf.symm.trans he)
    have hall := hu.forall (P := fun x => ∀ i, x = .line i → i < n)
      (fun ref e he _ x hx i hi => hr ref e he i (hi ▸ hx))
      (fun ref e he i hi j hj => hr ref e he j (hj ▸ hi))
      (fun i hi j hj => hr ref d hd j (hj ▸ mem_pieces_line.mp hi))
    exact hall _ hi i rfl

namespace Web

/-- What holds of a web between calls. -/
structure Sound (w : Web) : Prop where
  tidy : w.Tidy
  lines : w.repository.LinesBelow w.lines.size
  guard : w.guard = []

theorem sound_empty : Sound .empty where
  tidy := tidy_empty
  lines ref e he := by
    obtain ⟨k, name⟩ := ref
    cases k <;> exact nomatch he
  guard := rfl

variable {w : Web}

theorem lines_size_enact_le (w : Web) (i : Item) : w.lines.size ≤ (i.enact w).lines.size := by
  cases i with
  | literal text =>
    show w.lines.size ≤ (w.lines.push text).size
    rw [Array.size_push]
    omega
  | _ => exact Nat.le_refl _

theorem Sound.enact (h : w.Sound) (i : Item) : (i.enact w).Sound := by
  refine ⟨enact_tidy h.tidy i, fun ref e he j hj => ?_, (enact_frame w i).2.trans h.guard⟩
  have hsize := lines_size_enact_le w i
  rcases find?_enact_cases h.tidy i he with hd | rfl | ⟨d, x, hd, rfl, _, hx⟩
  · exact Nat.lt_of_lt_of_le (h.lines ref e hd j hj) hsize
  · exact absurd hj (by simp [Entity.empty])
  · rw [show (d.append x).elements.toList = d.elements.toList ++ [x] from Array.toList_push, List.mem_append,
      List.mem_singleton] at hj
    rcases hj with hj | rfl
    · exact Nat.lt_of_lt_of_le (h.lines ref d hd j hj) hsize
    · -- the new element is the line that is stored
      cases i with
      | literal text =>
        obtain rfl : w.lines.size = j := Element.line.inj (Option.some.inj hx)
        show w.lines.size < (w.lines.push text).size
        rw [Array.size_push]
        omega
      | _ => cases hx

theorem Sound.replay (h : w.Sound) (items : List Item) : (w.replay items).Sound :=
  replay_induction (P := Sound) (fun _ i h => h.enact i) items h

theorem Sound.under (h : w.Sound) (c : Control) : (w.under c).Sound :=
  ⟨⟨h.tidy.nodup, h.tidy.defined⟩, h.lines, h.guard⟩

variable (settings : Settings)

/-- Reading calls on an expanded web read nothing. -/
theorem perform_of_expanded (h : w.expanded = true) (r : Reading) :
    r.perform settings w = w ∨ ∃ q, r.perform settings w = w.request q := by
  cases r with
  | parse lib live name source =>
    refine Or.inl ?_
    simp only [Reading.perform, Web.parse, h, if_true]
  | parseFile lib live name =>
    refine Or.inl ?_
    simp only [Reading.perform, Web.parseFile, Session.ask]
    cases lib.read name with
    | error e => rfl
    | ok source => simp only [Web.parse, h, if_true]
  | request q => exact Or.inr ⟨q, rfl⟩

theorem Sound.read (h : w.Sound) (r : Reading) : (r.perform settings w).Sound := by
  cases hx : w.expanded with
  | false =>
    rw [Reading.perform_eq settings r hx]
    exact (h.replay _).under _
  | true =>
    rcases perform_of_expanded settings hx r with hr | ⟨q, hr⟩
    · rw [hr]
      exact h
    · rw [hr]
      exact h.enact (.requested q)

theorem Sound.expandAll (h : w.Sound) (patience : Option Nat) : (w.expandAll settings patience).1.web.Sound := by
  cases hx : w.expanded with
  | true =>
    rw [expandAll_of_expanded settings patience hx]
    exact h
  | false =>
    have hspec := expandAll_spec settings patience hx h.guard
    rw [hspec.frame]
    refine ⟨⟨h.tidy.nodup, fun k name hm => ?_⟩, hspec.expanding.linesBelow h.lines, h.guard⟩
    rw [hspec.expanding.names]
    exact h.tidy.defined k name hm

/-- Every call keeps a web sound. -/
theorem Sound.perform (h : w.Sound) (c : Call) : (c.perform settings w).Sound := by
  cases c with
  | read r => exact h.read settings r
  | expandAll patience => exact h.expandAll settings patience
  | render ref => exact h

/-- **Every web that calls make of an empty one is sound.** -/
theorem run_sound (calls : List Call) : (run settings calls .empty).Sound :=
  run_induction settings (fun _ c h => h.perform settings c) calls sound_empty

/-! ## Before anything is expanded -/

/-- A web in which nothing was expanded yet. -/
structure Fresh (w : Web) : Prop where
  sound : w.Sound
  expanded : w.expanded = false
  unresolved : w.repository.Unexpanded

theorem fresh_empty : Fresh .empty where
  sound := sound_empty
  expanded := rfl
  unresolved ref e he := by
    obtain ⟨k, name⟩ := ref
    cases k <;> exact nomatch he

theorem Fresh.enact (h : w.Fresh) (i : Item) : (i.enact w).Fresh := by
  refine ⟨h.sound.enact i, (enact_frame w i).1.trans h.expanded, fun ref e he => ?_⟩
  rcases find?_enact_cases h.sound.tidy i he with hd | rfl | ⟨d, x, hd, rfl, _, _⟩
  · exact h.unresolved ref e hd
  · rfl
  · exact h.unresolved ref d hd

theorem Fresh.replay (h : w.Fresh) (items : List Item) : (w.replay items).Fresh :=
  replay_induction (P := Fresh) (fun _ i h => h.enact i) items h

/-- **Reading expands nothing.** -/
theorem read_fresh (readings : List Reading) : (read settings readings .empty).Fresh := by
  obtain ⟨c, hc⟩ := read_eq settings readings (w := .empty) rfl
  have h := fresh_empty.replay (Reading.history settings Web.empty.control readings)
  rw [hc]
  exact ⟨h.sound.under c, h.expanded, h.unresolved⟩

end Web

end Literate
