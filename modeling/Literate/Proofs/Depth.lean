import Literate.Proofs.Bench
import Literate.Proofs.Cycles

/-!
# What the depth limit does

A limit on the references that are nested only ever takes results away. Where an expansion does not stop because of it,
the limit is not noticed: with a larger one everything is the same, what is logged on the way included
(`expandRef_deeper`, `expandEach_deeper`). This is so although entities are expanded only once, at the depth at which
they happen to be mentioned first, because the two expansions compared do the same up to that moment.

The main statement is `expandAll_deeper`. It also says that the limit is kept at every moment, and that it does not
matter where no path of mentions is longer.
-/

namespace Literate

open Log

/-- A call stops because too many references are nested. -/
def Stop.TooDeep (stop : Stop) : Prop := ∃ n guard source, stop = .failed (.maxDepthExceeded n guard source)

/-- There are no elements because too many references are nested. -/
def Expansion.TooDeep (x : Expansion) : Prop := ∃ stop, x.2 = .error stop ∧ stop.TooDeep

/-- An outcome is that too many references are nested. -/
def Outcome.TooDeep (x : Outcome) : Prop := ∃ stop, x.2 = some stop ∧ stop.TooDeep

/-- Unless the first expander stops because too many references are nested, the second one does the same. -/
def Expander.Deepens (expand expand' : Expander) : Prop :=
  ∀ ref source s, (expand ref source s).TooDeep ∨ expand' ref source s = expand ref source s

section Deeper

variable {d d' : Int}

theorem expandPieces_deeper {expand expand' : Expander} (h : expand.Deepens expand') (ps : List Piece)
    (out : Array Element) (s : Session) :
    (expandPieces expand ps out s).TooDeep ∨ expandPieces expand' ps out s = expandPieces expand ps out s := by
  induction ps generalizing out s with
  | nil => exact Or.inr rfl
  | cons p ps ih =>
    cases p with
    | line i => exact ih (out.push (.line i)) s
    | mention ref u =>
      simp only [expandPieces]
      rcases h ref (some u) s with ⟨stop, hstop, hdeep⟩ | hsame
      · left
        rcases hx : expand ref (some u) s with ⟨s', r⟩
        obtain rfl : r = .error stop := by rw [hx] at hstop; exact hstop
        exact ⟨stop, rfl, hdeep⟩
      · rw [hsame]
        rcases expand ref (some u) s with ⟨s', stop | sub⟩
        · exact Or.inr rfl
        · exact ih (out ++ sub) s'

/-- If its pieces are not to be expanded under a limit, a reference is too deep, or has the same result under every
larger limit. -/
theorem expandRef_of_not_enters (d' : Int) (bound : Nat) {ref : Ref} (source : Option Use) {s : Session}
    (h : ∀ e, ¬ s.web.Enters d ref e) :
    (expandRef d (bound + 1) ref source s).TooDeep ∨
      expandRef d' (bound + 1) ref source s = expandRef d (bound + 1) ref source s := by
  unfold expandRef
  by_cases hm : ref ∈ s.web.guard
  · exact Or.inr ((if_pos hm).trans (if_pos hm).symm)
  dsimp only
  rw [if_neg hm, if_neg hm]
  cases hf : s.web.repository.find? ref with
  | none => exact Or.inr rfl
  | some e =>
    dsimp only
    cases hr : e.resolved with
    | true =>
      rw [if_pos rfl, if_pos rfl]
      exact Or.inr rfl
    | false =>
      have hdeep : d ≤ s.web.guard.length := by
        by_contra hlt
        exact h e ⟨hm, hf, hr, by omega⟩
      rw [if_neg Bool.false_ne_true, if_pos hdeep]
      exact Or.inl ⟨_, rfl, _, _, _, rfl⟩

/-- **A larger limit is not noticed** where the smaller one is not, whatever is expanded already. -/
theorem expandRef_deeper (hd : d ≤ d') (bound : Nat) : (expandRef d bound).Deepens (expandRef d' bound) := by
  induction bound with
  | zero => exact fun _ _ _ => Or.inr rfl
  | succ bound ih =>
    intro ref source s
    by_cases he : ∃ e, s.web.Enters d ref e
    · obtain ⟨e, he⟩ := he
      have he' : s.web.Enters d' ref e := ⟨he.notMem, he.find, he.unresolved, Int.lt_of_lt_of_le he.depth hd⟩
      rw [expandRef_of_enters he, expandRef_of_enters he']
      rcases expandPieces_deeper ih e.pieces #[] (s.enter ref) with ⟨stop, hstop, hdeep⟩ | hsame
      · left
        rcases hx : expandPieces (expandRef d bound) e.pieces #[] (s.enter ref) with ⟨s', r⟩
        obtain rfl : r = .error stop := by rw [hx] at hstop; exact hstop
        exact ⟨stop, rfl, hdeep⟩
      · rw [hsame]
        exact Or.inr rfl
    · exact expandRef_of_not_enters d' bound source fun e h => he ⟨e, h⟩

theorem expandEach_deeper (hd : d ≤ d') (bound : Nat) (refs : List Ref) (s : Session) :
    (expandEach d bound none refs s).TooDeep ∨
      expandEach d' bound none refs s = expandEach d bound none refs s := by
  have hpatient : (none : Option Nat) ≠ some 0 := Option.some_ne_none 0 |>.symm
  induction refs generalizing s with
  | nil => exact Or.inr rfl
  | cons ref refs ih =>
    rcases hx : expandRef d bound ref none s with ⟨s', r⟩
    have hfirst := expandRef_deeper hd bound ref none s
    rw [hx] at hfirst
    rcases hfirst with ⟨stop, hstop, hdeep⟩ | hsame
    · obtain rfl : r = .error stop := hstop
      rw [expandEach_cons_of_error hpatient hx]
      exact Or.inl ⟨stop, rfl, hdeep⟩
    · cases r with
      | error stop =>
        rw [expandEach_cons_of_error hpatient hx, expandEach_cons_of_error hpatient hsame]
        exact Or.inr rfl
      | ok out =>
        rw [expandEach_cons_of_ok hpatient hx, expandEach_cons_of_ok hpatient hsame]
        exact ih s'

end Deeper

namespace Repository

/-- No path of mentions has more than some number of defined references. -/
def PathsWithin (r : Repository) (d : Int) : Prop :=
  ∀ path ≠ [], path.IsChain r.Mentions → (∀ ref ∈ path, (r.find? ref).isSome) → (path.length : Int) ≤ d

end Repository

/-- A reference that is too deep is at the end of a path that is longer than is allowed. -/
theorem Blames.not_pathsWithin {r : Repository} {d : Int} {a : Ref} {p : Problem} (h : Blames r d [] a none p)
    (hc : p.cause = .depth) : ¬ r.PathsWithin d := by
  intro hpaths
  obtain ⟨-, hdefined⟩ := h.guarded (.of_nil rfl)
  obtain ⟨-, hs, hle⟩ : p.ref ∉ p.guard ∧ (r.find? p.ref).isSome ∧ d ≤ p.guard.length := by simpa [hc] using h.cause
  have hlength := hpaths (p.guard ++ [p.ref]) (by simp) (h.walk (.nil r a)) fun ref hm => by
    rcases List.mem_append.mp hm with hm | hm
    · exact hdefined ref hm
    · exact List.mem_singleton.mp hm ▸ hs
  rw [List.length_append, List.length_singleton] at hlength
  omega

/-- What is done after an outcome that does not stop. -/
def Outcome.andThen (x : Outcome) (f : Session → Outcome) : Outcome :=
  match x with
  | (s, none) => f s
  | stopped => stopped

/-- If it is the same thing that is done, it does not look at the limit. -/
theorem Outcome.andThen_deeper {x y : Outcome} (h : x.TooDeep ∨ y = x) (f : Session → Outcome) :
    (x.andThen f).TooDeep ∨ y.andThen f = x.andThen f := by
  rcases h with ⟨stop, hstop, hdeep⟩ | rfl
  · obtain ⟨s, r⟩ := x
    obtain rfl : r = some stop := hstop
    exact Or.inl ⟨stop, rfl, hdeep⟩
  · exact Or.inr rfl

namespace Web

variable {settings : Settings} {w : Web} {d d' : Int}

variable (settings) in
/-- Unless expansion stops because too many references are nested, a larger limit changes nothing. -/
theorem expandAll_eq_of_le (hx : w.expanded = false) (hd : d ≤ d') :
    (w.expandAll { settings with maxDepth := d } none).TooDeep ∨
      w.expandAll { settings with maxDepth := d' } none = w.expandAll { settings with maxDepth := d } none := by
  have heach := expandEach_deeper hd (w.repository.refs.length + 1) w.repository.refs
  unfold expandAll
  rw [if_neg (by rw [hx]; exact Bool.false_ne_true), if_neg (by rw [hx]; exact Bool.false_ne_true)]
  rcases w.pending with _ | p
  · exact Outcome.andThen_deeper (heach _) _
  · exact Outcome.andThen_deeper (heach _) _

/-- **The depth limit only takes results away.** Documents were read, and are expanded under a limit.

* If expansion does not fail because of this limit, then under every larger one it leaves exactly the same behind: the
  same web, the same events, and the same reason to stop, if there is one.
* At every moment there are at most as many references on the guard as are allowed, and none if the limit is negative:
  this holds of every bench that the steps of expansion lead to, and they lead to what the call leaves behind.
* If every mentioned reference is defined, none leads back to itself, and no path of mentions is longer than the limit,
  then expansion succeeds. -/
theorem expandAll_deeper (settings : Settings) (readings : List Reading) {d d' : Int} (hd : d ≤ d') :
    let w := read settings readings .empty
    let x (n : Int) := w.expandAll { settings with maxDepth := n } none
    ((∀ f, (x d).2 = some (.failed f) → ¬ f.hasFault .maxDepthExceeded) → x d' = x d) ∧
    (∀ b, Bench.Leads d (.start w) b → (b.session.web.guard.length : Int) ≤ max d 0) ∧
    (∃ b, Bench.Leads d (.start w) b ∧ b.step? d = none ∧ b.stop = (x d).2 ∧
      (x d).1.web = { b.session.web with expanded := b.stop.isNone }) ∧
    (w.repository.Closed → w.repository.Acyclic → w.repository.PathsWithin d → (x d).2 = none) := by
  intro w x
  have hw : w.Fresh := read_fresh settings readings
  refine ⟨fun hf => ?_, fun b hb => ?_, ?_, fun hc ha hpaths => ?_⟩
  · rcases expandAll_eq_of_le settings hw.expanded hd with ⟨_, hstop, n, guard, source, rfl⟩ | hsame
    · exact absurd (((Failure.maxDepthExceeded_madeOf n guard source).ofKind.hasFault _).mpr rfl) (hf _ hstop)
    · exact hsame
  · have hlength := ((Bench.Stacked.start hw.sound.guard).leads hb).length_guard_le
    omega
  · obtain ⟨b, hb, hend, -, hstop, hweb⟩ :=
      expandAll_leads { settings with maxDepth := d } hw.expanded hw.sound.guard
    exact ⟨b, hb, hend, hstop, hweb⟩
  · cases hs : (x d).2 with
    | none => rfl
    | some stop =>
      have hspec := expandAll_spec { settings with maxDepth := d } none hw.expanded hw.sound.guard
      rcases hspec.error stop hs with ⟨-, hn⟩ | ⟨p, hp, -⟩
      · exact absurd rfl hn
      · obtain ⟨a, -, hb⟩ := hp.exists_mem
        by_cases hcause : p.cause = .depth
        · exact absurd hpaths (hb.not_pathsWithin hcause)
        · exact absurd hp (not_blamesFirst hc ha hcause)

/-- A document in which a chunk uses another one, which uses a third. -/
def layered : List Reading :=
  [.parse (.ofList []) true "f" { text :=
    "=begin litweb\n=begin_chunk a\n=use_chunk b\n=end_chunk a\n=begin_chunk b\n=use_chunk c\n=end_chunk b\n" ++
    "=begin_chunk c\nx\n=end_chunk c\n" }]

/-- A limit of two is too small for it, and every limit from three on has the same result. -/
theorem expandAll_deeper_layered :
    let x (n : Int) := (read .standard layered .empty).expandAll { Settings.standard with maxDepth := n } none
    (3 : Int) ≤ 1000 ∧ (x 2).2.isSome ∧ (x 3).2 = none ∧ x 1000 = x 3 := by
  intro x
  have hd : (3 : Int) ≤ 1000 := by decide
  have hnone : (x 3).2 = none := Option.isNone_iff_eq_none.mp (by decide +kernel)
  obtain ⟨hsame, -⟩ := expandAll_deeper .standard layered hd
  exact ⟨hd, by decide +kernel, hnone, hsame fun f hf => nomatch hnone.symm.trans hf⟩

end Web

end Literate
