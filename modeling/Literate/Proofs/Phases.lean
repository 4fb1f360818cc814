import Literate.Proofs.Invariant
import Mathlib.Data.List.Induction

/-!
# Phases of a web

Any calls on an empty web, in any order and with any outcomes, leave a web of which the following is known
(`run_phases`).

* Entities mention stored lines only.
* Expanded entities hold lines only, unless a use was accepted too late: while the name of an entity was open that an
  earlier call had expanded (`AcceptedLate`). This can happen when an expansion fails and reading goes on, and in no
  other way.
* Rendering crashes where an expanded entity holds a use, and where the search for names like an undefined one has no
  answer, but nowhere else.
* A web that is expanded as a whole stays as it is, whatever is called.
-/

namespace Literate

/-! ## Moments of a list -/

/-- At some moment of a list something holds of the elements so far and the next one. -/
def Sometime {α : Type} (P : List α → α → Prop) (xs : List α) : Prop :=
  ∃ before x after, xs = before ++ x :: after ∧ P before x

section Moments

variable {α : Type} {P : List α → α → Prop}

theorem not_sometime_nil : ¬ Sometime P [] := by
  rintro ⟨before, x, after, heq, _⟩
  exact absurd heq (by simp)

theorem sometime_snoc (xs : List α) (x : α) : Sometime P (xs ++ [x]) ↔ Sometime P xs ∨ P xs x := by
  constructor
  · rintro ⟨before, y, after, heq, hy⟩
    rcases List.eq_nil_or_concat after with rfl | ⟨after, z, rfl⟩
    · obtain ⟨rfl, hxy⟩ := List.append_inj' heq rfl
      obtain rfl : x = y := (List.cons.inj hxy).1
      exact Or.inr hy
    · rw [List.concat_eq_append, ← List.cons_append, ← List.append_assoc] at heq
      exact Or.inl ⟨before, y, after, (List.append_inj' heq rfl).1, hy⟩
  · rintro (⟨before, y, after, rfl, hy⟩ | hx)
    · exact ⟨before, y, after ++ [x], by simp, hy⟩
    · exact ⟨xs, x, [], rfl, hx⟩

end Moments

/-! ## Entities that hold lines only -/

/-- Expanded entities hold lines only. -/
def Repository.Linear (r : Repository) : Prop :=
  ∀ ref e, r.find? ref = some e → e.resolved = true → ∀ x ∈ e.elements.toList, x.isLine

/-- What is expanded where expanded entities hold lines only holds lines only. -/
theorem Expanding.linear {r r' : Repository} (h : Expanding r r') (hr : r.Linear) : r'.Linear := by
  intro ref e he hres
  rcases h.entity ref with hs | ⟨d, out, hd, _, hu, hf⟩
  · exact hr ref e (by rw [← hs, he]) hres
  · obtain rfl := Option.some.inj (hf.symm.trans he)
    exact hu.forall hr (fun _ _ _ _ _ => rfl) (fun _ _ => rfl)

/-- An expanded entity that holds a use does so for good. -/
theorem Expanding.linear_iff {r r' : Repository} (h : Expanding r r') : r'.Linear ↔ r.Linear :=
  ⟨fun hr ref e he hres => hr ref e (h.find?_of_resolved he hres) hres, h.linear⟩

namespace Web

variable {w : Web}

/-- An item adds a use to an entity that is expanded. -/
def Spoils (w : Web) (i : Item) : Prop :=
  ∃ u, i = .use u ∧ ∃ ref e, w.repository.find? ref = some e ∧ e.resolved = true ∧ ref.name ∈ w.opened.get ref.kind

/-- A use among items is accepted while the name of an expanded entity is open. -/
def AcceptedLate (w : Web) : List Item → Prop := Sometime fun before i => (w.replay before).Spoils i

/-- Among the items, one that adds a use to an expanded entity is the only one that matters. -/
theorem linear_enact_iff (h : w.Tidy) (i : Item) :
    (i.enact w).repository.Linear ↔ w.repository.Linear ∧ ¬ w.Spoils i := by
  constructor
  · intro hl
    refine ⟨fun ref d hd hres x hx => ?_, ?_⟩
    · obtain ⟨e, he, hres', hsub⟩ := find?_enact_of_some h i hd
      exact hl ref e he (hres'.trans hres) x (hsub x hx)
    · rintro ⟨u, rfl, ref, d, hd, hres, hm⟩
      have hf := find?_enact_of_pushed h (i := .use u) (x := .use u) rfl ref
      rw [if_pos hm, hd] at hf
      exact absurd (hl ref _ hf hres (.use u) (by simp [Entity.append])) (by simp [Element.isLine])
  · rintro ⟨hl, hi⟩ ref e he hres x hx
    rcases find?_enact_cases h i he with hd | rfl | ⟨d, y, hd, rfl, hm, hy⟩
    · exact hl ref e hd hres x hx
    · exact absurd hx (by simp [Entity.empty])
    · rw [show (d.append y).elements.toList = d.elements.toList ++ [y] from Array.toList_push, List.mem_append,
        List.mem_singleton] at hx
      rcases hx with hx | rfl
      · exact hl ref d hd hres x hx
      · cases i with
        | literal text =>
          obtain rfl := Option.some.inj hy
          rfl
        | use u => exact absurd ⟨u, rfl, ref, d, hd, hres, hm⟩ hi
        | _ => cases hy

/-- Items keep expanded entities to lines if and only if no use among them comes too late. -/
theorem linear_replay_iff (h : w.Tidy) (items : List Item) :
    (w.replay items).repository.Linear ↔ w.repository.Linear ∧ ¬ w.AcceptedLate items := by
  induction items using List.reverseRecOn with
  | nil => exact (and_iff_left not_sometime_nil).symm
  | append_singleton items i ih =>
    rw [replay_append, AcceptedLate, sometime_snoc, not_or, ← and_assoc, ← AcceptedLate, ← ih]
    exact linear_enact_iff (replay_tidy h items) i

/-! ## Whole runs -/

variable (settings : Settings)

/-- A call accepts a use too late. -/
def PerformsLate (w : Web) : Call → Prop
  | .read r => w.expanded = false ∧ w.AcceptedLate (r.transcribe settings w.control).items
  | _ => False

/-- Some call accepts a use too late. -/
def RunsLate : List Call → Prop := Sometime fun before c => (run settings before .empty).PerformsLate settings c

/-- What a call does to the lines of expanded entities. -/
theorem linear_perform_iff (h : w.Sound) (c : Call) :
    (c.perform settings w).repository.Linear ↔ w.repository.Linear ∧ ¬ w.PerformsLate settings c := by
  cases c with
  | render ref => exact ⟨fun hl => ⟨hl, id⟩, fun hl => hl.1⟩
  | expandAll patience =>
    refine Iff.trans ?_ (and_iff_left (b := ¬ w.PerformsLate settings (.expandAll patience)) id).symm
    simp only [Call.perform]
    cases hx : w.expanded with
    | true => rw [expandAll_of_expanded settings patience hx]
    | false => exact (expandAll_spec settings patience hx h.guard).expanding.linear_iff
  | read r =>
    simp only [Call.perform, PerformsLate]
    cases hx : w.expanded with
    | true =>
      rcases perform_of_expanded settings hx r with hr | ⟨q, hr⟩
      · rw [hr]
        simp
      · rw [hr]
        exact ⟨fun hl => ⟨hl, by simp⟩, fun hl => hl.1⟩
    | false =>
      rw [Reading.perform_eq settings r hx]
      refine (linear_replay_iff h.tidy _).trans ?_
      simp

/-- **Expanded entities hold lines only, unless a use came too late.** -/
theorem linear_run_iff (calls : List Call) :
    (run settings calls .empty).repository.Linear ↔ ¬ RunsLate settings calls := by
  induction calls using List.reverseRecOn with
  | nil =>
    exact iff_of_true (fun ⟨k, name⟩ e he => by cases k <;> exact nomatch he) not_sometime_nil
  | append_singleton calls c ih =>
    rw [run_append, RunsLate, sometime_snoc, not_or, ← RunsLate, ← ih]
    exact linear_perform_iff settings (run_sound settings calls) c

/-! ## Rendering -/

/-- What keeps elements from having a text. -/
theorem renderElements_eq_none_iff {lines : Array Text} {elements : Array Element}
    (h : ∀ i, .line i ∈ elements.toList → i < lines.size) :
    renderElements lines elements = none ↔ ∃ u, .use u ∈ elements.toList := by
  obtain ⟨elements⟩ := elements
  simp only [renderElements, Option.map_eq_none_iff] at h ⊢
  induction elements with
  | nil => simp
  | cons x elements ih =>
    have ih := ih fun i hi => h i (List.mem_cons_of_mem _ hi)
    rw [List.mapM_cons]
    cases x with
    | line i =>
      obtain ⟨text, hi⟩ : ∃ text, lines[i]? = some text := ⟨_, Array.getElem?_eq_getElem (h i List.mem_cons_self)⟩
      simp only [Element.text?, hi, Option.bind_eq_bind, Option.bind_some, List.mem_cons, reduceCtorEq, false_or, ← ih]
      cases elements.mapM (Element.text? lines) <;> simp
    | use u => exact iff_of_true rfl ⟨u, List.mem_cons_self⟩

/-- When rendering crashes. -/
theorem render_crashes_iff (h : w.Sound) (ref : Ref) : w.render ref = .error .crashed ↔
    (∃ e, w.repository.find? ref = some e ∧ e.resolved = true ∧ ∃ u, .use u ∈ e.elements.toList) ∨
      (w.repository.find? ref = none ∧ Suggest.names? ref.name (w.repository.names ref.kind) = none) := by
  unfold render
  cases he : w.repository.find? ref with
  | none =>
    simp only [undefinedStop]
    cases Suggest.names? ref.name (w.repository.names ref.kind) <;> simp
  | some e =>
    cases hres : e.resolved with
    | false => simp [hres]
    | true =>
      have hnone := renderElements_eq_none_iff (h.lines ref e he)
      simp only [hres, Bool.not_true, Bool.false_eq_true, if_false]
      cases ht : renderElements w.lines e.elements with
      | none => exact iff_of_true rfl (Or.inl ⟨e, rfl, hres, hnone.mp ht⟩)
      | some text =>
        refine iff_of_false (by simp) ?_
        rintro (⟨d, hd, _, hu⟩ | ⟨hn, _⟩)
        · obtain rfl := Option.some.inj hd
          exact absurd (ht.symm.trans (hnone.mpr hu)) (by simp)
        · cases hn

/-! ## Expanded webs -/

/-- Calls do nothing to an expanded web but queue requests. -/
theorem run_of_expanded (h : w.expanded = true) (calls : List Call) :
    run settings calls w = { w with queue := (run settings calls w).queue } := by
  induction calls using List.reverseRecOn with
  | nil => rfl
  | append_singleton calls c ih =>
    rw [run_append]
    generalize run settings calls w = v at ih
    have hv : v.expanded = true := by
      rw [ih]
      exact h
    have hc : (run settings [c] v) = { v with queue := (run settings [c] v).queue } := by
      cases c with
      | read r =>
        rcases perform_of_expanded settings hv r with hr | ⟨q, hr⟩
        · exact hr.trans (by rw [show run settings [.read r] v = r.perform settings v from rfl, hr])
        · exact hr.trans (by rw [show run settings [.read r] v = r.perform settings v from rfl, hr]; rfl)
      | expandAll patience =>
        have hx : run settings [.expandAll patience] v = v :=
          congrArg (·.1.web) (expandAll_of_expanded settings patience hv)
        rw [hx]
      | render ref => rfl
    rw [hc, ih]

/-- In an expanded web every entity is expanded. -/
theorem resolved_of_expanded (calls : List Call) (h : (run settings calls .empty).expanded = true) :
    ∀ ref e, (run settings calls .empty).repository.find? ref = some e → e.resolved = true := by
  induction calls using List.reverseRecOn with
  | nil => exact absurd h Bool.false_ne_true
  | append_singleton calls c ih =>
    have hs := run_sound settings calls
    rw [run_append] at h ⊢
    generalize run settings calls .empty = v at h ih hs ⊢
    cases hv : v.expanded with
    | true =>
      rw [run_of_expanded settings hv]
      exact ih hv
    | false =>
      -- only an expansion that goes through makes a web expanded
      cases c with
      | read r =>
        rw [show run settings [.read r] v = r.perform settings v from rfl, Reading.perform_eq settings r hv] at h
        exact absurd ((replay_frame v _).1.trans hv) (by rw [show (v.replay _).expanded = true from h]; decide)
      | expandAll patience =>
        have hspec := expandAll_spec settings patience hv hs.guard
        rw [show run settings [.expandAll patience] v = (v.expandAll settings patience).1.web from rfl] at h ⊢
        rw [hspec.frame] at h
        intro ref e he
        obtain ⟨out, _, hf⟩ := hspec.ok (Option.isNone_iff_eq_none.mp h) ref
          ((hspec.expanding.isSome_find? ref).mp (by rw [he]; rfl))
        obtain rfl := Option.some.inj (he.symm.trans hf)
        rfl
      | render ref => exact absurd (hv.symm.trans h) Bool.false_ne_true

/-- **What is known of a web after any calls.** -/
theorem run_phases (calls : List Call) :
    let w := run settings calls .empty
    (∀ ref e, w.repository.find? ref = some e → ∀ i, .line i ∈ e.elements.toList → i < w.lines.size) ∧
    ((∀ ref e, w.repository.find? ref = some e → e.resolved = true → ∀ x ∈ e.elements.toList, x.isLine) ↔
      ¬ RunsLate settings calls) ∧
    (∀ ref, w.render ref = .error .crashed ↔
      (∃ e, w.repository.find? ref = some e ∧ e.resolved = true ∧ ∃ u, .use u ∈ e.elements.toList) ∨
        (w.repository.find? ref = none ∧ Suggest.names? ref.name (w.repository.names ref.kind) = none)) ∧
    (w.expanded = true → (∀ ref e, w.repository.find? ref = some e → e.resolved = true) ∧
      ∀ more ref, (run settings more w).expanded = true ∧ (run settings more w).render ref = w.render ref) := by
  intro w
  have hw : w.Sound := run_sound settings calls
  refine ⟨hw.lines, linear_run_iff settings calls, render_crashes_iff hw, fun h => ?_⟩
  refine ⟨resolved_of_expanded settings calls h, fun more ref => ?_⟩
  rw [run_of_expanded settings h]
  exact ⟨h, rfl⟩

/-- Calls that expand a chunk while another one fails, and then read a use into it. -/
def lateCalls : List Call :=
  [.read (.parse (.ofList []) true "f" { text := "=begin litweb\n=begin_chunk a\nx\n=end_chunk a\n=begin_chunk b\n" ++
      "=use_chunk c\n=end_chunk b\n=begin_chunk a\n" }),
    .expandAll none,
    .read (.parse (.ofList []) true "g" { text := "=use_chunk d\n=end_chunk a\n=begin_chunk c\ny\n=end_chunk c\n" ++
      "=begin_chunk d\nz\n=end_chunk d\n" }),
    .expandAll none]

/-- The second expansion goes through, but the chunk cannot be rendered. -/
theorem run_crashes_lateCalls :
    (run .standard lateCalls .empty).expanded = true ∧
      (run .standard lateCalls .empty).repository.find? ⟨.chunk, "a"⟩ =
        some ⟨#[.line 0, .use ⟨.chunk, ["d"], "=use_chunk d", ⟨"g", 1⟩⟩], true⟩ ∧
      (run .standard lateCalls .empty).render ⟨.chunk, "a"⟩ = .error .crashed := by
  have hfind : (run .standard lateCalls .empty).repository.find? ⟨.chunk, "a"⟩ =
      some ⟨#[.line 0, .use ⟨.chunk, ["d"], "=use_chunk d", ⟨"g", 1⟩⟩], true⟩ := by
    decide +kernel
  have hsound := run_sound .standard lateCalls
  refine ⟨by decide, hfind, (render_crashes_iff hsound _).mpr (Or.inl ⟨_, hfind, rfl, ?_⟩)⟩
  exact ⟨_, List.mem_cons_of_mem _ List.mem_cons_self⟩

end Web

end Literate
