import Literate.Proofs.Invariant
import Mathlib.Data.List.Chain
import Mathlib.Logic.Relation

/-!
# When expansion succeeds

A reference mentions those that the uses in its entity name (`Repository.Mentions`). A web into which documents were
read can be expanded if and only if every mentioned reference is defined and no reference leads back to itself, as
long as the allowed depth is no less than the number of names.

One direction is that what stands for something is on no cycle (`Unfolds.not_cycle`), the other that every problem is
the end of a walk along mentions (`Blames.walk`). Among the problems that have nothing to do with depth, the one to
blame is unique (`BlamesFirst.unique`), so it says exactly how a call stops (`expandAll_stops`): it fails with a cycle
or an undefined reference, except that it crashes where the search for names like an undefined one has no answer.
-/

namespace Literate

open Relation (TransGen ReflTransGen)

/-! ## Mentions -/

namespace Repository

/-- A use in the entity of `a` names `b`. -/
def Mentions (r : Repository) (a b : Ref) : Prop :=
  ∃ e, r.find? a = some e ∧ ∃ u, .use u ∈ e.elements.toList ∧ b ∈ u.refs

/-- Every mentioned reference is defined. -/
def Closed (r : Repository) : Prop := ∀ a b, r.Mentions a b → (r.find? b).isSome

/-- No reference leads back to itself. -/
def Acyclic (r : Repository) : Prop := ∀ a, ¬ TransGen r.Mentions a a

/-- Every reference of a list mentions the next one, and the last one mentions `ref`. -/
def Walk (r : Repository) (guard : List Ref) (ref : Ref) : Prop := (guard ++ [ref]).IsChain r.Mentions

variable {r : Repository} {a b : Ref} {guard : List Ref}

/-- What is mentioned among the pieces of an entity is mentioned by its reference. -/
theorem mentions_of_pieces_eq {e : Entity} {u : Use} {before after : List Piece} (he : r.find? a = some e)
    (hp : e.pieces = before ++ .mention b u :: after) : r.Mentions a b := by
  have hm : .mention b u ∈ e.pieces := by
    rw [hp]
    exact List.mem_append_right _ List.mem_cons_self
  obtain ⟨hu, hb⟩ := mem_pieces_mention.mp hm
  exact ⟨e, he, u, hu, hb⟩

theorem Walk.nil (r : Repository) (a : Ref) : r.Walk [] a := List.isChain_singleton a

/-- A walk, one mention further. -/
theorem Walk.snoc (h : r.Walk guard a) (hm : r.Mentions a b) : r.Walk (guard ++ [a]) b :=
  List.IsChain.append h (List.isChain_singleton b) fun x hx y hy => by
    rw [List.getLast?_append_of_ne_nil _ (by simp)] at hx
    obtain rfl : a = x := by simpa using hx
    obtain rfl : b = y := by simpa using hy
    exact hm

/-- The last step of a walk. -/
theorem Walk.last (h : r.Walk (guard ++ [a]) b) : r.Mentions a b := by
  rw [Walk, List.append_assoc] at h
  exact List.isChain_pair.mp h.right_of_append

/-- A walk to a reference that it has visited is a way from it back to itself. -/
theorem Walk.cycle (h : r.Walk guard a) (hm : a ∈ guard) : TransGen r.Mentions a a := by
  obtain ⟨before, after, rfl⟩ := List.append_of_mem hm
  rw [Walk, List.append_assoc] at h
  have hround : (a :: (after ++ [a])).IsChain r.Mentions := h.right_of_append
  rcases after with _ | ⟨b, after⟩
  · exact .single (List.isChain_pair.mp hround)
  · rw [List.cons_append, List.isChain_cons_cons] at hround
    have hback : ReflTransGen r.Mentions b a := by
      have hreach := List.relationReflTransGen_of_exists_isChain (b :: (after ++ [a])) hround.2 (by simp)
      simpa using hreach
    exact TransGen.head' hround.1 hback

end Repository

/-! ## What stands for something is on no cycle -/

section Standing

variable {r : Repository} (hr : r.Unexpanded)
include hr

theorem Unfolds.not_cycle {ps : List Piece} {out : List Element} (h : Unfolds r ps out) :
    ∀ b u, .mention b u ∈ ps → ¬ TransGen r.Mentions b b := by
  induction h with
  | nil => exact fun b u hm => absurd hm List.not_mem_nil
  | line _ ih =>
    intro b u hm
    rcases List.mem_cons.mp hm with h | hm
    · cases h
    · exact ih b u hm
  | expanded he hres _ _ => exact absurd ((hr _ _ he).symm.trans hres) Bool.noConfusion
  | @inside ref v e sub rest out he _ _ _ ihsub ih =>
    intro b u hm
    rcases List.mem_cons.mp hm with h | hm
    · obtain ⟨rfl, rfl⟩ := Piece.mention.inj h
      intro hcycle
      -- a cycle through a reference is one through what it mentions first
      obtain ⟨c, ⟨d, hd, w, hw, hc⟩, hback⟩ := TransGen.head'_iff.mp hcycle
      obtain rfl := Option.some.inj (hd.symm.trans he)
      exact ihsub c w (mem_pieces_mention.mpr ⟨hw, hc⟩) (TransGen.tail' hback ⟨d, hd, w, hw, hc⟩)
    · exact ih b u hm

theorem Yields.not_cycle {a : Ref} {out : List Element} (h : Yields r a out) : ¬ TransGen r.Mentions a a := by
  have hu : Unfolds r [.mention a ⟨a.kind, [], [], .zero⟩] (out ++ []) :=
    unfolds_mention_iff.mpr ⟨out, [], h, .nil, rfl⟩
  exact hu.not_cycle hr a _ List.mem_cons_self

/-- What a reference mentions that stands for something stands for something. -/
theorem Yields.mentioned {a b : Ref} {out : List Element} (h : Yields r a out) (hm : r.Mentions a b) :
    ∃ sub, Yields r b sub := by
  obtain ⟨e, he, ⟨hres, _⟩ | ⟨_, hu⟩⟩ := h
  · exact absurd ((hr a e he).symm.trans hres) Bool.noConfusion
  · obtain ⟨d, hd, u, hud, hb⟩ := hm
    obtain rfl := Option.some.inj (hd.symm.trans he)
    exact hu.yields (mem_pieces_mention.mpr ⟨hud, hb⟩)

end Standing

theorem Yields.isSome_find? {r : Repository} {a : Ref} {out : List Element} (h : Yields r a out) :
    (r.find? a).isSome := by
  obtain ⟨e, he, _⟩ := h
  rw [he]
  rfl

/-! ## Where problems are -/

section Blame

variable {r : Repository} {maxDepth : Int} {guard : List Ref} {ref : Ref} {source : Option Use} {p q : Problem}

/-- A problem is at the end of a walk. -/
theorem Blames.walk (h : Blames r maxDepth guard ref source p) (hw : r.Walk guard ref) : r.Walk p.guard p.ref := by
  induction h with
  | cycle _ => exact hw
  | undefined _ _ => exact hw
  | depth _ _ _ _ => exact hw
  | inside _ he _ _ hp _ _ ih => exact ih (hw.snoc (Repository.mentions_of_pieces_eq he hp))

/-- A problem is with the reference itself, or that reference leads to it. -/
theorem Blames.guard_eq (h : Blames r maxDepth guard ref source p) :
    (p.guard = guard ∧ p.ref = ref) ∨ ∃ more, p.guard = guard ++ ref :: more := by
  induction h with
  | cycle _ => exact Or.inl ⟨rfl, rfl⟩
  | undefined _ _ => exact Or.inl ⟨rfl, rfl⟩
  | depth _ _ _ _ => exact Or.inl ⟨rfl, rfl⟩
  | inside _ _ _ _ _ _ _ ih =>
    right
    rcases ih with ⟨hg, _⟩ | ⟨more, hg⟩
    · exact ⟨[], hg⟩
    · exact ⟨_ :: more, by rw [hg, List.append_assoc]; rfl⟩

/-- What is said of a problem by its cause. -/
theorem Blames.cause (h : Blames r maxDepth guard ref source p) :
    (p.cause = .cycle ∧ p.ref ∈ p.guard) ∨ (p.cause = .undefined ∧ r.find? p.ref = none) ∨
      (p.cause = .depth ∧ p.ref ∉ p.guard ∧ (r.find? p.ref).isSome ∧ maxDepth ≤ p.guard.length) := by
  induction h with
  | cycle hm => exact Or.inl ⟨rfl, hm⟩
  | undefined _ hf => exact Or.inr (Or.inl ⟨rfl, hf⟩)
  | depth hm he _ hd => exact Or.inr (Or.inr ⟨rfl, hm, by rw [he]; rfl, hd⟩)
  | inside _ _ _ _ _ _ _ ih => exact ih

/-- The references that lead to a problem are different and defined. -/
theorem Blames.guarded (h : Blames r maxDepth guard ref source p) (hg : Guarded { repository := r, guard }) :
    Guarded { repository := r, guard := p.guard } := by
  induction h with
  | cycle _ => exact hg
  | undefined _ _ => exact hg
  | depth _ _ _ _ => exact hg
  | inside hm he _ _ _ _ _ ih => exact ih (hg.enter hm (by rw [he]; rfl))

/-- Where the depth is no less than the number of names, it is never to blame. -/
theorem Blames.cause_ne_depth (h : Blames r maxDepth guard ref source p) (hg : Guarded { repository := r, guard })
    (hd : (r.refs.length : Int) ≤ maxDepth) : p.cause ≠ .depth := by
  intro hc
  rcases h.cause with ⟨hc', _⟩ | ⟨hc', _⟩ | ⟨_, hm, hs, hle⟩
  · exact absurd (hc.symm.trans hc') (by decide)
  · exact absurd (hc.symm.trans hc') (by decide)
  · have hlength : (p.guard ++ [p.ref]).length ≤ r.refs.length := ((h.guarded hg).enter hm hs).length_le
    rw [List.length_append, List.length_singleton] at hlength
    omega

/-- A reference that is to blame for something other than depth stands for nothing. -/
theorem Blames.not_yields (hr : r.Unexpanded) (h : Blames r maxDepth guard ref source p) (hw : r.Walk guard ref)
    (hp : p.cause ≠ .depth) (out : List Element) : ¬ Yields r ref out := by
  induction h generalizing out with
  | cycle hm => exact fun hy => hy.not_cycle hr (hw.cycle hm)
  | undefined _ hf => exact fun hy => absurd hy.isSome_find? (by rw [hf]; exact Bool.false_ne_true)
  | depth _ _ _ _ => exact absurd rfl hp
  | inside _ he _ _ hps _ _ ih =>
    intro hy
    have hm := Repository.mentions_of_pieces_eq he hps
    obtain ⟨sub, hsub⟩ := hy.mentioned hr hm
    exact ih (hw.snoc hm) hp sub hsub

end Blame

/-! ## Which problem is to blame -/

/-- The first element of a list without a property is unique. -/
theorem first_unique {α : Type} {P : α → Prop} {xs xs' ys ys' : List α} {a a' : α}
    (h : xs ++ a :: ys = xs' ++ a' :: ys') (hx : ∀ x ∈ xs, P x) (hx' : ∀ x ∈ xs', P x)
    (ha : ¬ P a) (ha' : ¬ P a') : a = a' := by
  induction xs generalizing xs' with
  | nil =>
    cases xs' with
    | nil => exact (List.cons.inj h).1
    | cons x' xs' =>
      obtain rfl : a = x' := (List.cons.inj h).1
      exact absurd (hx' a List.mem_cons_self) ha
  | cons x xs ih =>
    cases xs' with
    | nil =>
      obtain rfl : x = a' := (List.cons.inj h).1
      exact absurd (hx x List.mem_cons_self) ha'
    | cons x' xs' =>
      exact ih (List.cons.inj h).2 (fun y hy => hx y (List.mem_cons_of_mem _ hy))
        (fun y hy => hx' y (List.mem_cons_of_mem _ hy))

/-- A piece stands for something. -/
def Piece.Stands (r : Repository) : Piece → Prop
  | line _ => True
  | mention b _ => ∃ out, Yields r b out

theorem Unfolds.stands {r : Repository} {ps : List Piece} {out : List Element} (h : Unfolds r ps out) :
    ∀ x ∈ ps, x.Stands r := by
  intro x hx
  cases x with
  | line i => exact trivial
  | mention b u => exact h.yields hx

section Unique

variable {r : Repository} {maxDepth : Int} {guard : List Ref} {ref : Ref} {source : Option Use} {p q : Problem}
variable (hr : r.Unexpanded)
include hr

/-- Only one problem other than depth is to blame for the failure of a reference. -/
theorem Blames.unique (h : Blames r maxDepth guard ref source p) (h' : Blames r maxDepth guard ref source q)
    (hw : r.Walk guard ref) (hp : p.cause ≠ .depth) (hq : q.cause ≠ .depth) : p = q := by
  induction h with
  | cycle hm =>
    cases h' with
    | cycle _ => rfl
    | undefined hm' _ => exact absurd hm hm'
    | depth hm' _ _ _ => exact absurd hm hm'
    | inside hm' _ _ _ _ _ _ => exact absurd hm hm'
  | undefined hm hf =>
    cases h' with
    | cycle hm' => exact absurd hm' hm
    | undefined _ _ => rfl
    | depth _ he _ _ => exact absurd (hf.symm.trans he) (by simp)
    | inside _ he _ _ _ _ _ => exact absurd (hf.symm.trans he) (by simp)
  | depth _ _ _ _ => exact absurd rfl hp
  | @inside guard ref source e before b u after out p hm he hres hd hps hu hb ih =>
    cases h' with
    | cycle hm' => exact absurd hm' hm
    | undefined _ hf => exact absurd (hf.symm.trans he) (by simp)
    | depth _ _ _ _ => exact absurd rfl hq
    | @inside _ _ _ e' before' b' u' after' out' _ _ he' _ _ hps' hu' hb' =>
      obtain rfl := Option.some.inj (he.symm.trans he')
      have hm := Repository.mentions_of_pieces_eq he hps
      have hm' := Repository.mentions_of_pieces_eq he hps'
      -- both blame the first mention that stands for nothing
      have hfirst : Piece.mention b u = Piece.mention b' u' :=
        first_unique (hps.symm.trans hps') hu.stands hu'.stands
          (fun ⟨sub, hsub⟩ => hb.not_yields hr (hw.snoc hm) hp sub hsub)
          (fun ⟨sub, hsub⟩ => hb'.not_yields hr (hw.snoc hm') hq sub hsub)
      obtain ⟨rfl, rfl⟩ := Piece.mention.inj hfirst
      exact ih hb' (hw.snoc hm) hp

omit hr in
/-- Some reference of the list leads to the problem. -/
theorem BlamesFirst.exists_mem {refs : List Ref} (h : BlamesFirst r maxDepth guard refs p) :
    ∃ a ∈ refs, Blames r maxDepth guard a none p := by
  obtain ⟨before, a, after, rfl, _, hb⟩ := h
  exact ⟨a, List.mem_append_right _ List.mem_cons_self, hb⟩

theorem BlamesFirst.unique {refs : List Ref} (h : BlamesFirst r maxDepth [] refs p)
    (h' : BlamesFirst r maxDepth [] refs q) (hp : p.cause ≠ .depth) (hq : q.cause ≠ .depth) : p = q := by
  obtain ⟨before, a, after, hrefs, hbefore, hb⟩ := h
  obtain ⟨before', a', after', hrefs', hbefore', hb'⟩ := h'
  obtain rfl : a = a' := first_unique (hrefs.symm.trans hrefs') hbefore hbefore'
    (fun ⟨out, hout⟩ => hb.not_yields hr (.nil r a) hp out hout)
    (fun ⟨out, hout⟩ => hb'.not_yields hr (.nil r a') hq out hout)
  exact hb.unique hr hb' (.nil r a) hp hq

end Unique

/-! ## How a call stops -/

/-- Whether a call crashed. -/
def hasCrashed : Option Stop → Bool
  | some .crashed => true
  | _ => false

theorem eq_crashed_of_hasCrashed {stop : Option Stop} (h : hasCrashed stop) : stop = some .crashed := by
  unfold hasCrashed at h
  split at h
  · rfl
  · cases h

namespace Web

/-- A web into which documents were read, all of which stands for something, is closed and has no cycles. -/
theorem Fresh.closed_acyclic {w : Web} (h : w.Fresh)
    (hy : ∀ ref, (w.repository.find? ref).isSome → ∃ out, Yields w.repository ref out) :
    w.repository.Closed ∧ w.repository.Acyclic := by
  have hdefined {a b : Ref} (hm : w.repository.Mentions a b) : (w.repository.find? a).isSome := by
    obtain ⟨e, he, _⟩ := hm
    rw [he]
    rfl
  refine ⟨fun a b hm => ?_, fun a hcycle => ?_⟩
  · obtain ⟨out, hout⟩ := hy a (hdefined hm)
    obtain ⟨sub, hsub⟩ := hout.mentioned h.unresolved hm
    exact hsub.isSome_find?
  · obtain ⟨b, hm, _⟩ := TransGen.head'_iff.mp hcycle
    obtain ⟨out, hout⟩ := hy a (hdefined hm)
    exact hout.not_cycle h.unresolved hcycle

/-- Where nothing mentions an undefined reference and nothing is on a cycle, there is nothing to blame but depth. -/
theorem not_blamesFirst {r : Repository} {maxDepth : Int} {p : Problem} (hc : r.Closed) (ha : r.Acyclic)
    (hp : p.cause ≠ .depth) : ¬ BlamesFirst r maxDepth [] r.refs p := by
  intro hfirst
  obtain ⟨a, hmem, hb⟩ := hfirst.exists_mem
  have hw := hb.walk (.nil r a)
  rcases hb.cause with ⟨_, hm⟩ | ⟨_, hf⟩ | ⟨hd, _⟩
  · exact ha p.ref (hw.cycle hm)
  · have hundefined : ¬ (r.find? p.ref).isSome := by
      rw [hf]
      exact Bool.false_ne_true
    -- the undefined reference is one of those that are expanded, or something mentions it
    rcases hb.guard_eq with ⟨_, href⟩ | ⟨more, hg⟩
    · rw [href] at hundefined
      exact hundefined ((Repository.mem_refs_iff r a).mp hmem)
    · rcases List.eq_nil_or_concat (a :: more) with hnil | ⟨guard, b, hlast⟩
      · exact absurd hnil (List.cons_ne_nil a more)
      · rw [hg, List.nil_append, hlast, List.concat_eq_append] at hw
        exact hundefined (hc b p.ref hw.last)
  · exact hp hd

section Stopping

variable {settings : Settings} {w : Web}

/-- What is expanded stood for something. -/
theorem Fresh.yields (h : w.Fresh) (hs : (w.expandAll settings none).2 = none) {ref : Ref}
    (hd : (w.repository.find? ref).isSome) : ∃ out, Yields w.repository ref out := by
  obtain ⟨out, hout, _⟩ := (expandAll_spec settings none h.expanded h.sound.guard).ok hs ref hd
  exact ⟨out, hout⟩

/-- What stops an expansion that is deep enough is a problem other than depth. -/
theorem Fresh.blamed (h : w.Fresh) (hdepth : (w.repository.refs.length : Int) ≤ settings.maxDepth) {s : Stop}
    (hs : (w.expandAll settings none).2 = some s) :
    ∃ p, BlamesFirst w.repository settings.maxDepth [] w.repository.refs p ∧ p.cause ≠ .depth ∧
      s = p.stop w.repository settings.maxDepth := by
  rcases (expandAll_spec settings none h.expanded h.sound.guard).error s hs with ⟨_, hn⟩ | ⟨p, hp, hstop⟩
  · exact absurd rfl hn
  · obtain ⟨a, _, hb⟩ := hp.exists_mem
    exact ⟨p, hp, hb.cause_ne_depth (.of_nil rfl) hdepth, hstop⟩

theorem Fresh.succeeds_iff (h : w.Fresh) (hdepth : (w.repository.refs.length : Int) ≤ settings.maxDepth) :
    (w.expandAll settings none).2 = none ↔ w.repository.Closed ∧ w.repository.Acyclic := by
  constructor
  · exact fun hs => h.closed_acyclic fun ref hd => h.yields hs hd
  · rintro ⟨hc, ha⟩
    cases hs : (w.expandAll settings none).2 with
    | none => rfl
    | some s =>
      obtain ⟨p, hp, hcause, _⟩ := h.blamed hdepth hs
      exact absurd hp (not_blamesFirst hc ha hcause)

/-- A problem other than depth that is to blame is what stops the expansion. -/
theorem Fresh.stops_of_blamesFirst (h : w.Fresh) (hdepth : (w.repository.refs.length : Int) ≤ settings.maxDepth)
    {p : Problem} (hp : BlamesFirst w.repository settings.maxDepth [] w.repository.refs p) (hcause : p.cause ≠ .depth) :
    (w.expandAll settings none).2 = some (p.stop w.repository settings.maxDepth) := by
  cases hs : (w.expandAll settings none).2 with
  | none =>
    obtain ⟨a, hmem, hb⟩ := hp.exists_mem
    obtain ⟨out, hout⟩ := h.yields hs ((Repository.mem_refs_iff _ a).mp hmem)
    exact absurd hout (hb.not_yields h.unresolved (.nil _ a) hcause out)
  | some s =>
    obtain ⟨q, hq, hcause', rfl⟩ := h.blamed hdepth hs
    rw [hp.unique h.unresolved hq hcause hcause']

end Stopping

/-- **When expansion succeeds, and how it stops.** Documents were read, and the allowed depth is no less than the
number of names. Expansion succeeds if and only if every mentioned reference is defined and none leads back to itself.
Otherwise it fails for one of these reasons and no other, or it crashes; it crashes if and only if the first problem
is an undefined reference for which the search for similar names has no answer. -/
theorem expandAll_stops (settings : Settings) (readings : List Reading)
    (hdepth : ((read settings readings .empty).repository.refs.length : Int) ≤ settings.maxDepth) :
    let w := read settings readings .empty
    let stop := (w.expandAll settings none).2
    (stop = none ↔ w.repository.Closed ∧ w.repository.Acyclic) ∧
    (∀ s, stop = some s → s = .crashed ∨ ∃ f, s = .failed f ∧
      (f.hasFault .undefinedReference ∨ f.hasFault .referenceCycle) ∧ ¬ f.hasFault .maxDepthExceeded) ∧
    (stop = some .crashed ↔ ∃ p, BlamesFirst w.repository settings.maxDepth [] w.repository.refs p ∧
      p.cause = .undefined ∧ Suggest.names? p.ref.name (w.repository.names p.ref.kind) = none) := by
  intro w stop
  have hw : w.Fresh := read_fresh settings readings
  refine ⟨hw.succeeds_iff hdepth, fun s hs => ?_, fun hs => ?_, ?_⟩
  · obtain ⟨p, _, hcause, rfl⟩ := hw.blamed hdepth hs
    refine p.stop_cases.imp id fun ⟨f, hf⟩ => ⟨f, hf, ?_⟩
    simp only [Problem.hasFault_iff hf]
    cases hc : p.cause with
    | cycle => exact ⟨Or.inr rfl, by decide⟩
    | undefined => exact ⟨Or.inl rfl, by decide⟩
    | depth => exact absurd hc hcause
  · obtain ⟨p, hp, _, hcrash⟩ := hw.blamed hdepth hs
    exact ⟨p, hp, p.stop_eq_crashed_iff.mp hcrash.symm⟩
  · rintro ⟨p, hp, hcrash⟩
    have hcause : p.cause ≠ .depth := by
      rw [hcrash.1]
      decide
    have hstop : p.stop w.repository settings.maxDepth = .crashed := p.stop_eq_crashed_iff.mpr hcrash
    rw [← hstop]
    exact hw.stops_of_blamesFirst hdepth hp hcause

/-- A document in which two chunks use each other. -/
def entangled : List Reading :=
  [.parse (.ofList []) true "f" { text :=
    "=begin litweb\n=begin_chunk a\n=use_chunk b\n=end_chunk a\n=begin_chunk b\n=use_chunk a\n=end_chunk b\n" }]

/-- Its expansion does not succeed, so some name leads back to itself or is not defined. -/
theorem expandAll_stops_entangled :
    ((read .standard entangled .empty).repository.refs.length : Int) ≤ Settings.standard.maxDepth ∧
      ¬ ((read .standard entangled .empty).repository.Closed ∧
        (read .standard entangled .empty).repository.Acyclic) := by
  have hdepth : ((read .standard entangled .empty).repository.refs.length : Int) ≤ Settings.standard.maxDepth := by
    decide
  have hstop : ((read .standard entangled .empty).expandAll .standard none).2.isSome := by decide
  refine ⟨hdepth, fun h => ?_⟩
  rw [(expandAll_stops .standard entangled hdepth).1.mpr h] at hstop
  exact Bool.false_ne_true hstop

/-- A document that uses a chunk that is not defined, while the name of a chunk that is contains a NUL character. -/
def misspelling : List Reading :=
  [.parse (.ofList []) true "f" { text :=
    "=begin litweb\n=begin_chunk a\x00b\n=end_chunk a\x00b\n=begin_chunk x\n=use_chunk a\n=end_chunk x\n" }]

/-- The search for a name like the undefined one has no answer there. -/
theorem expandAll_crashes_misspelling :
    ((read .standard misspelling .empty).repository.refs.length : Int) ≤ Settings.standard.maxDepth ∧
      ((read .standard misspelling .empty).expandAll .standard none).2 = some .crashed :=
  ⟨by decide, eq_crashed_of_hasCrashed (by decide)⟩

end Web

end Literate
