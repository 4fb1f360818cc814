import Literate.Proofs.Failure
import Literate.Proofs.Flattening
import Mathlib.Data.List.Perm.Subperm

/-!
# What expansion does

An expansion changes nothing but the entities, and of these it only expands some (`Expands`). When it succeeds, its
result is what the reference stood for before. When it fails, there is a problem to blame (`Blames`): the guard leads
on, through mentions of entities that are not expanded, to a reference that is on it already, that is not defined, or
that is too deep; everything mentioned before on the way does stand for something.

This is said once of all that is expanded one inside another (`expandRef_sound`), by induction on their number. The
guard holds different defined references, so the recursion never runs out of its bound. The main statement about a
whole call is `expandAll_spec`.
-/

namespace Literate

open Log

/-! ## Piece by piece -/

/-- Appends pieces with their mentions expanded. -/
def expandPieces (expand : Expander) : List Piece → Array Element → Session → Expansion
  | [], out, s => (s, .ok out)
  | .line i :: rest, out, s => expandPieces expand rest (out.push (.line i)) s
  | .mention ref u :: rest, out, s =>
    match expand ref (some u) s with
    | (s, .ok sub) => expandPieces expand rest (out ++ sub) s
    | (s, .error stop) => (s, .error stop)

theorem expandPieces_mentions (expand : Expander) (u : Use) (refs : List Ref) (rest : List Piece) (out : Array Element)
    (s : Session) : expandPieces expand (refs.map (.mention · u) ++ rest) out s =
      match expandRefs expand u refs out s with
      | (s, .ok out) => expandPieces expand rest out s
      | (s, .error stop) => (s, .error stop) := by
  induction refs generalizing out s with
  | nil => rfl
  | cons ref refs ih =>
    simp only [List.map_cons, List.cons_append, expandPieces, expandRefs]
    rcases expand ref (some u) s with ⟨s, stop | sub⟩
    · rfl
    · exact ih (out ++ sub) s

/-- Expanding elements is expanding their pieces. -/
theorem expandElements_eq (expand : Expander) (elements : List Element) (out : Array Element) (s : Session) :
    expandElements expand elements out s = expandPieces expand (piecesOf elements) out s := by
  induction elements generalizing out s with
  | nil => rfl
  | cons e elements ih =>
    cases e with
    | line i => exact ih (out.push (.line i)) s
    | use u =>
      rw [show piecesOf (.use u :: elements) = u.refs.map (.mention · u) ++ piecesOf elements from rfl,
        expandPieces_mentions]
      simp only [expandElements]
      rcases expandRefs expand u u.refs out s with ⟨s, stop | out⟩
      · rfl
      · exact ih out s

/-! ## Problems -/

/-- What can be wrong with a reference. -/
inductive Cause where
  /-- It leads back to one that is being expanded. -/
  | cycle
  /-- It is not defined. -/
  | undefined
  /-- Too many references are nested. -/
  | depth
deriving DecidableEq

/-- A reference with which something is wrong, the references that lead to it, and the use that mentions it. -/
structure Problem where
  cause : Cause
  guard : List Ref
  ref : Ref
  source : Option Use

/-- Why a problem stops a call. -/
def Problem.stop (r : Repository) (maxDepth : Int) (p : Problem) : Stop :=
  match p.cause with
  | .cycle => .failed (.referenceCycle p.guard p.ref p.source)
  | .undefined => ({ repository := r, guard := p.guard } : Web).undefinedStop p.ref p.source
  | .depth => .failed (.maxDepthExceeded maxDepth p.guard p.source)

/-- The fault that a failure has when it is caused. -/
def Cause.fault : Cause → Fault
  | cycle => .referenceCycle
  | undefined => .undefinedReference
  | depth => .maxDepthExceeded

/-- A problem is to blame for the failure of a reference that is mentioned when the references on the guard are being
expanded. -/
inductive Blames (r : Repository) (maxDepth : Int) : (guard : List Ref) → Ref → Option Use → Problem → Prop
  | cycle {guard ref source} : ref ∈ guard → Blames r maxDepth guard ref source ⟨.cycle, guard, ref, source⟩
  | undefined {guard ref source} : ref ∉ guard → r.find? ref = none →
      Blames r maxDepth guard ref source ⟨.undefined, guard, ref, source⟩
  | depth {guard ref source e} : ref ∉ guard → r.find? ref = some e → e.resolved = false → maxDepth ≤ guard.length →
      Blames r maxDepth guard ref source ⟨.depth, guard, ref, source⟩
  | inside {guard ref source e before b u after out p} : ref ∉ guard → r.find? ref = some e → e.resolved = false →
      guard.length < maxDepth → e.pieces = before ++ .mention b u :: after → Unfolds r before out →
      Blames r maxDepth (guard ++ [ref]) b (some u) p → Blames r maxDepth guard ref source p

/-- A problem is to blame for the failure of pieces: the first piece that stands for nothing leads to it. -/
def BlamesIn (r : Repository) (maxDepth : Int) (guard : List Ref) (ps : List Piece) (p : Problem) : Prop :=
  ∃ before b u after out, ps = before ++ .mention b u :: after ∧ Unfolds r before out ∧
    Blames r maxDepth guard b (some u) p

/-- A problem is to blame for the failure of references of which each is expanded in turn. -/
def BlamesFirst (r : Repository) (maxDepth : Int) (guard : List Ref) (refs : List Ref) (p : Problem) : Prop :=
  ∃ before ref after, refs = before ++ ref :: after ∧ (∀ b ∈ before, ∃ out, Yields r b out) ∧
    Blames r maxDepth guard ref none p

section Problems

variable {r r' : Repository} {maxDepth : Int} {guard : List Ref}

/-- What stops a call depends on the defined names only. -/
theorem Problem.stop_congr (h : ∀ k, r'.names k = r.names k) (p : Problem) :
    p.stop r' maxDepth = p.stop r maxDepth := by
  have hhas (ref : Ref) : r'.has ref = r.has ref := by
    rw [Bool.eq_iff_iff, Repository.has_iff, Repository.has_iff, h]
  unfold stop
  cases p.cause with
  | cycle => rfl
  | undefined => simp only [Web.undefinedStop, h, hhas]
  | depth => rfl

/-- A problem crashes a call if it is an undefined name for which the search for suggestions has no answer. -/
theorem Problem.stop_eq_crashed_iff (p : Problem) : p.stop r maxDepth = .crashed ↔
    p.cause = .undefined ∧ Suggest.names? p.ref.name (r.names p.ref.kind) = none := by
  obtain ⟨cause, guard, ref, source⟩ := p
  cases cause with
  | cycle => simp [stop]
  | depth => simp [stop]
  | undefined =>
    simp only [stop, Web.undefinedStop, true_and]
    cases Suggest.names? ref.name (r.names ref.kind) <;> simp

/-- A problem makes a call crash or fail. -/
theorem Problem.stop_cases (p : Problem) :
    p.stop r maxDepth = .crashed ∨ ∃ f, p.stop r maxDepth = .failed f := by
  obtain ⟨cause, guard, ref, source⟩ := p
  cases cause with
  | cycle => exact .inr ⟨_, rfl⟩
  | depth => exact .inr ⟨_, rfl⟩
  | undefined =>
    simp only [stop, Web.undefinedStop]
    cases Suggest.names? ref.name (r.names ref.kind) with
    | none => exact .inl rfl
    | some names => exact .inr ⟨_, rfl⟩

/-- The failure that a problem causes is of one kind. -/
theorem Problem.stop_ofKinds (r : Repository) (maxDepth : Int) (p : Problem) :
    (p.stop r maxDepth).OfKinds [p.cause.fault] := by
  obtain ⟨cause, guard, ref, source⟩ := p
  cases cause with
  | cycle => exact .failed (Failure.referenceCycle_madeOf guard ref source) List.mem_cons_self
  | depth => exact .failed (Failure.maxDepthExceeded_madeOf maxDepth guard source) List.mem_cons_self
  | undefined => exact Web.undefinedStop_ofKinds _ ref source

theorem Problem.hasFault_iff {p : Problem} {f : Failure} (h : p.stop r maxDepth = .failed f) (fault : Fault) :
    f.hasFault fault ↔ fault = p.cause.fault := by
  obtain ⟨g, hg, hk⟩ := p.stop_ofKinds r maxDepth f h
  obtain rfl := List.mem_singleton.mp hg
  exact hk.hasFault fault

/-- What is wrong in a half-expanded repository was wrong from the beginning. -/
theorem Expanding.blames (h : Expanding r r') {ref : Ref} {source : Option Use} {p : Problem}
    (hb : Blames r' maxDepth guard ref source p) : Blames r maxDepth guard ref source p := by
  induction hb with
  | cycle hm => exact .cycle hm
  | undefined hm hf =>
    exact .undefined hm (Option.not_isSome_iff_eq_none.mp fun hs => by simp [hf, ← h.isSome_find?] at hs)
  | depth hm he hr hd => exact .depth hm (h.find?_of_unresolved he hr) hr hd
  | inside hm he hr hd hp hu _ ih => exact .inside hm (h.find?_of_unresolved he hr) hr hd hp (h.unfolds hu) ih

theorem Expanding.blamesIn (h : Expanding r r') {ps : List Piece} {p : Problem} (hb : BlamesIn r' maxDepth guard ps p) :
    BlamesIn r maxDepth guard ps p := by
  obtain ⟨before, b, u, after, out, hp, hu, hb⟩ := hb
  exact ⟨before, b, u, after, out, hp, h.unfolds hu, h.blames hb⟩

theorem Expanding.blamesFirst (h : Expanding r r') {refs : List Ref} {p : Problem}
    (hb : BlamesFirst r' maxDepth guard refs p) : BlamesFirst r maxDepth guard refs p := by
  obtain ⟨before, ref, after, hp, hy, hb⟩ := hb
  exact ⟨before, ref, after, hp, fun b hm => (hy b hm).imp fun _ => h.yields, h.blames hb⟩

/-- A piece that stands for something is not to blame. -/
theorem BlamesIn.append {ps qs : List Piece} {p : Problem} {out : List Element} (hu : Unfolds r ps out)
    (hb : BlamesIn r maxDepth guard qs p) : BlamesIn r maxDepth guard (ps ++ qs) p := by
  obtain ⟨before, b, u, after, more, rfl, hm, hb⟩ := hb
  exact ⟨ps ++ before, b, u, after, out ++ more, by simp, hu.append hm, hb⟩

end Problems

/-! ## What an expansion keeps -/

/-- The guard holds different defined references. -/
structure Guarded (w : Web) : Prop where
  nodup : w.guard.Nodup
  defined : ∀ ref ∈ w.guard, (w.repository.find? ref).isSome

/-- Entities are expanded, and nothing else is different. -/
structure Expands (w w' : Web) : Prop where
  frame : w' = { w with repository := w'.repository }
  expanding : Expanding w.repository w'.repository

section Keeping

variable {w w' w'' : Web}

theorem Guarded.of_nil (h : w.guard = []) : Guarded w :=
  ⟨by rw [h]; exact List.nodup_nil, fun ref hm => by rw [h] at hm; exact absurd hm List.not_mem_nil⟩

/-- So there are at most as many references on the guard as are defined. -/
theorem Guarded.length_le (h : Guarded w) : w.guard.length ≤ w.repository.refs.length := by
  have hs : w.guard ⊆ w.repository.refs := fun ref hm => (Repository.mem_refs_iff _ _).mpr (h.defined ref hm)
  exact (List.subperm_of_subset h.nodup hs).length_le

/-- One more defined reference on the guard. -/
theorem Guarded.enter (h : Guarded w) {ref : Ref} (hm : ref ∉ w.guard) (hd : (w.repository.find? ref).isSome) :
    Guarded { w with guard := w.guard ++ [ref] } := by
  refine ⟨?_, fun a ha => ?_⟩
  · rw [List.nodup_append]
    refine ⟨h.nodup, by simp, fun a ha b hb => ?_⟩
    rw [List.mem_singleton] at hb
    rintro rfl
    exact hm (hb ▸ ha)
  · rcases List.mem_append.mp ha with ha | ha
    · exact h.defined a ha
    · rw [List.mem_singleton.mp ha]
      exact hd

theorem Expands.refl (w : Web) : Expands w w := ⟨rfl, .refl _⟩

theorem Expands.trans (h : Expands w w') (h' : Expands w' w'') : Expands w w'' :=
  ⟨by rw [h'.frame, h.frame], h.expanding.trans h'.expanding⟩

theorem Expands.guard (h : Expands w w') : w'.guard = w.guard := by rw [h.frame]

theorem Expands.guarded (h : Expands w w') (hg : Guarded w) : Guarded w' := by
  refine ⟨?_, fun ref hm => ?_⟩
  · rw [h.guard]
    exact hg.nodup
  · rw [h.guard] at hm
    exact (h.expanding.isSome_find? ref).mpr (hg.defined ref hm)

end Keeping

/-- What is expanded with one more reference on the guard, which is taken off again. -/
theorem Expands.leave {ref : Ref} (h : Expands { w with guard := w.guard ++ [ref] } w') :
    Expands w { w' with guard := w'.guard.dropLast } := by
  refine ⟨?_, h.expanding⟩
  rw [h.frame, List.dropLast_concat]

/-- One more entity is expanded. -/
theorem Expands.update (h : Expands w w') {ref : Ref} {e : Entity} {out : Array Element}
    (he : w.repository.find? ref = some e) (hr : e.resolved = false) (hu : Unfolds w.repository e.pieces out.toList) :
    Expands w { w' with repository := w'.repository.update ref fun _ => ⟨out, true⟩ } :=
  ⟨by rw [h.frame], (h.expanding.update he hr hu).1⟩

/-! ## Expanding references one inside another -/

section Sound

variable (maxDepth : Int)

/-- What the expansion of a reference leaves behind. -/
structure RefExpanded (ref : Ref) (source : Option Use) (w : Web) (x : Expansion) : Prop where
  expands : Expands w x.1.web
  ok : ∀ out, x.2 = .ok out → Yields w.repository ref out.toList ∧ x.1.web.repository.find? ref = some ⟨out, true⟩
  error : ∀ stop, x.2 = .error stop →
    ∃ p, Blames w.repository maxDepth w.guard ref source p ∧ stop = p.stop w.repository maxDepth

/-- What the expansion of pieces leaves behind. -/
structure PiecesExpanded (ps : List Piece) (start : Array Element) (w : Web) (x : Expansion) : Prop where
  expands : Expands w x.1.web
  ok : ∀ out, x.2 = .ok out → ∃ sub, Unfolds w.repository ps sub ∧ out.toList = start.toList ++ sub
  error : ∀ stop, x.2 = .error stop →
    ∃ p, BlamesIn w.repository maxDepth w.guard ps p ∧ stop = p.stop w.repository maxDepth

/-- An expander does what it should where fewer than `bound` further references fit on the guard. -/
def Expander.Sound (bound : Nat) (expand : Expander) : Prop :=
  ∀ ref source s, Guarded s.web → s.web.repository.refs.length < bound + s.web.guard.length →
    RefExpanded maxDepth ref source s.web (expand ref source s)

variable {maxDepth}

/-- Pieces are expanded by an expander that does what it should. -/
theorem expandPieces_spec {bound : Nat} {expand : Expander} (h : expand.Sound maxDepth bound) (ps : List Piece)
    (start : Array Element) (s : Session) (hg : Guarded s.web)
    (hb : s.web.repository.refs.length < bound + s.web.guard.length) :
    PiecesExpanded maxDepth ps start s.web (expandPieces expand ps start s) := by
  induction ps generalizing start s with
  | nil =>
    refine ⟨.refl _, fun out ho => ⟨[], .nil, ?_⟩, fun stop ho => nomatch ho⟩
    obtain rfl : start = out := Except.ok.inj ho
    rw [List.append_nil]
  | cons q ps ih =>
    cases q with
    | line i =>
      have hrest := ih (start.push (.line i)) s hg hb
      refine ⟨hrest.expands, fun out ho => ?_, fun stop ho => ?_⟩
      · obtain ⟨sub, hsub, hout⟩ := hrest.ok out ho
        exact ⟨.line i :: sub, .line hsub, by rw [hout]; simp⟩
      · obtain ⟨p, hp, hstop⟩ := hrest.error stop ho
        exact ⟨p, .append (.line .nil) hp, hstop⟩
    | mention ref u =>
      have hfirst := h ref (some u) s hg hb
      simp only [expandPieces]
      rcases hx : expand ref (some u) s with ⟨s', stop | sub⟩
      · rw [hx] at hfirst
        refine ⟨hfirst.expands, fun out ho => (nomatch ho), fun stop' ho => ?_⟩
        obtain ⟨p, hp, hstop⟩ := hfirst.error stop' ho
        exact ⟨p, ⟨[], ref, u, ps, [], rfl, .nil, hp⟩, hstop⟩
      · rw [hx] at hfirst
        obtain ⟨hy, -⟩ := hfirst.ok sub rfl
        have hsub : Unfolds s.web.repository [.mention ref u] sub.toList :=
          unfolds_mention_iff.mpr ⟨sub.toList, [], hy, .nil, by simp⟩
        have hs' := hfirst.expands
        have hrest := ih (start ++ sub) s' (hs'.guarded hg) (by rw [hs'.expanding.refs, hs'.guard]; exact hb)
        refine ⟨hs'.trans hrest.expands, fun out ho => ?_, fun stop ho => ?_⟩
        · obtain ⟨more, hmore, hout⟩ := hrest.ok out ho
          exact ⟨sub.toList ++ more, hsub.append (hs'.expanding.unfolds hmore), by rw [hout]; simp⟩
        · obtain ⟨p, hp, hstop⟩ := hrest.error stop ho
          refine ⟨p, .append hsub (hs'.expanding.blamesIn ?_), ?_⟩
          · rw [← hs'.guard]
            exact hp
          · rw [hstop, Problem.stop_congr hs'.expanding.names]

/-- **An expansion does what it should**, however many references are nested. -/
theorem expandRef_sound (bound : Nat) : (expandRef maxDepth bound).Sound maxDepth bound := by
  induction bound with
  | zero =>
    intro ref source s hg hb
    exact absurd hg.length_le (by omega)
  | succ bound ih =>
    intro ref source s hg hb
    unfold expandRef
    by_cases hm : ref ∈ s.web.guard
    · rw [if_pos hm]
      exact ⟨.refl _, fun out ho => (nomatch ho), fun stop ho => ⟨_, .cycle hm, (Except.error.inj ho).symm⟩⟩
    rw [if_neg hm]
    cases hf : s.web.repository.find? ref with
    | none =>
      exact ⟨.refl _, fun out ho => (nomatch ho), fun stop ho => ⟨_, .undefined hm hf, (Except.error.inj ho).symm⟩⟩
    | some e =>
      dsimp only
      cases hr : e.resolved with
      | true =>
        refine ⟨.refl _, fun out ho => ?_, fun stop ho => nomatch ho⟩
        obtain rfl : e.elements = out := Except.ok.inj ho
        have he : e = ⟨e.elements, true⟩ := by rw [← hr]
        exact ⟨⟨e, hf, Or.inl ⟨hr, rfl⟩⟩, hf.trans (congrArg some he)⟩
      | false =>
        rw [if_neg Bool.false_ne_true]
        by_cases hd : maxDepth ≤ s.web.guard.length
        · rw [if_pos hd]
          exact ⟨.refl _, fun out ho => (nomatch ho), fun stop ho =>
            ⟨_, .depth hm hf hr hd, (Except.error.inj ho).symm⟩⟩
        rw [if_neg hd, expandElements_eq]
        -- the pieces of the entity are expanded with its reference on the guard
        generalize hs₁ : ((s.modify fun w => { w with guard := w.guard ++ [ref] }).log .trace "expand"
          [Attr.text "ref" ref.text, Attr.int "depth" (s.web.guard.length + 1)]) = s₁
        have hw₁ : s₁.web = { s.web with guard := s.web.guard ++ [ref] } := by rw [← hs₁]; rfl
        have hin := expandPieces_spec ih e.pieces #[] s₁ (by rw [hw₁]; exact hg.enter hm (by rw [hf]; rfl))
          (by rw [hw₁]; simp only [List.length_append, List.length_singleton]; omega)
        rw [hw₁, Entity.pieces] at hin
        rcases hx : expandPieces (expandRef maxDepth bound) (piecesOf e.elements.toList) #[] s₁ with ⟨s₂, stop | out⟩
        · rw [hx] at hin
          refine ⟨hin.expands.leave, fun out ho => (nomatch ho), fun stop' ho => ?_⟩
          obtain ⟨p, ⟨before, b, u, after, sub, hps, hu, hp⟩, hstop⟩ := hin.error stop' ho
          exact ⟨p, .inside hm hf hr (by omega) hps hu hp, hstop⟩
        · rw [hx] at hin
          obtain ⟨sub, hsub, hout⟩ := hin.ok out rfl
          obtain rfl : out.toList = sub := by simpa using hout
          have hleft := hin.expands.leave
          refine ⟨hleft.update hf hr hsub, fun out' ho => ?_, fun stop ho => nomatch ho⟩
          obtain rfl : out = out' := Except.ok.inj ho
          exact ⟨⟨e, hf, Or.inr ⟨hr, hsub⟩⟩, (hleft.expanding.update hf hr hsub).2⟩

end Sound

/-! ## Expanding everything -/

section Everything

variable {maxDepth : Int}

/-- What the expansion of references, one after another, leaves behind. -/
structure EachExpanded (maxDepth : Int) (patience : Option Nat) (refs : List Ref) (w : Web) (x : Outcome) : Prop where
  expands : Expands w x.1.web
  ok : x.2 = none → ∀ ref ∈ refs, ∃ out, Yields w.repository ref out ∧
    x.1.web.repository.find? ref = some ⟨out.toArray, true⟩
  error : ∀ stop, x.2 = some stop → (stop = .canceled ∧ patience ≠ none) ∨
    ∃ p, BlamesFirst w.repository maxDepth w.guard refs p ∧ stop = p.stop w.repository maxDepth

/-- References that were expanded stay so while others are. -/
theorem EachExpanded.cons {patience : Option Nat} {ref : Ref} {refs : List Ref} {out : Array Element} {w w' : Web}
    {x : Outcome} (h : Expands w w') (hy : Yields w.repository ref out.toList)
    (hf : w'.repository.find? ref = some ⟨out, true⟩) (hx : EachExpanded maxDepth (patience.map (· - 1)) refs w' x) :
    EachExpanded maxDepth patience (ref :: refs) w x := by
  refine ⟨h.trans hx.expands, fun ho b hb => ?_, fun stop ho => ?_⟩
  · rcases List.mem_cons.mp hb with rfl | hb
    · exact ⟨out.toList, hy, hx.expands.expanding.find?_of_resolved hf rfl⟩
    · obtain ⟨sub, hsub, hfind⟩ := hx.ok ho b hb
      exact ⟨sub, h.expanding.yields hsub, hfind⟩
  · rcases hx.error stop ho with ⟨hc, hp⟩ | ⟨p, hp, hstop⟩
    · exact Or.inl ⟨hc, fun hn => hp (by rw [hn]; rfl)⟩
    · obtain ⟨before, b, after, rfl, hbefore, hb⟩ := h.expanding.blamesFirst hp
      rw [h.guard] at hb
      rw [Problem.stop_congr h.expanding.names] at hstop
      refine Or.inr ⟨p, ⟨ref :: before, b, after, rfl, fun a ha => ?_, hb⟩, hstop⟩
      rcases List.mem_cons.mp ha with rfl | ha
      · exact ⟨out.toList, hy⟩
      · exact hbefore a ha

theorem expandEach_spec {bound : Nat} (patience : Option Nat) (refs : List Ref) (s : Session) (hg : Guarded s.web)
    (hb : s.web.repository.refs.length < bound + s.web.guard.length) :
    EachExpanded maxDepth patience refs s.web (expandEach maxDepth bound patience refs s) := by
  induction refs generalizing patience s with
  | nil =>
    unfold expandEach
    exact ⟨.refl _, fun _ ref hm => absurd hm List.not_mem_nil, fun stop ho => nomatch ho⟩
  | cons ref refs ih =>
    by_cases hp : patience = some 0
    · subst hp
      refine ⟨.refl _, fun ho => (nomatch ho), fun stop ho => Or.inl ⟨(Option.some.inj ho).symm, fun hn => nomatch hn⟩⟩
    · have hfirst : RefExpanded maxDepth ref none s.web (expandRef maxDepth bound ref none s) :=
        expandRef_sound bound ref none s hg hb
      rw [expandEach.eq_3 maxDepth bound patience s ref refs (fun hp' => hp hp')]
      rcases hx : expandRef maxDepth bound ref none s with ⟨s', stop | out⟩
      · rw [hx] at hfirst
        refine ⟨hfirst.expands, fun ho => (nomatch ho), fun stop' ho => ?_⟩
        obtain ⟨p, hp, hstop⟩ := hfirst.error stop rfl
        refine Or.inr ⟨p, ⟨[], ref, refs, rfl, fun b hm => absurd hm List.not_mem_nil, hp⟩, ?_⟩
        rw [← hstop]
        exact (Option.some.inj ho).symm
      · rw [hx] at hfirst
        obtain ⟨hy, hf⟩ := hfirst.ok out rfl
        have hs' := hfirst.expands
        have hrest := ih (patience.map (· - 1)) s' (hs'.guarded hg)
          (by rw [hs'.expanding.refs, hs'.guard]; exact hb)
        exact .cons hs' hy hf hrest

/-- What a call that expands everything leaves behind of a web that is not expanded. -/
structure AllExpanded (settings : Settings) (patience : Option Nat) (w : Web) (x : Outcome) : Prop where
  frame : x.1.web = { w with pending := none, repository := x.1.web.repository, expanded := x.2.isNone }
  expanding : Expanding w.repository x.1.web.repository
  ok : x.2 = none → ∀ ref, (w.repository.find? ref).isSome → ∃ out, Yields w.repository ref out ∧
    x.1.web.repository.find? ref = some ⟨out.toArray, true⟩
  error : ∀ stop, x.2 = some stop → (stop = .canceled ∧ patience ≠ none) ∨
    ∃ p, BlamesFirst w.repository settings.maxDepth [] w.repository.refs p ∧
      stop = p.stop w.repository settings.maxDepth

/-- Expanding an expanded web does nothing. -/
theorem Web.expandAll_of_expanded (settings : Settings) (patience : Option Nat) {w : Web} (h : w.expanded = true) :
    w.expandAll settings patience = (⟨w, #[]⟩, none) := by
  unfold expandAll
  rw [if_pos h]

/-- Everything is expanded without the line that waits for its continuation. -/
theorem Web.expandAll_eq (settings : Settings) (patience : Option Nat) {w : Web} (h : w.expanded = false) :
    ∃ s : Session, s.web = { w with pending := none } ∧
      let x := expandEach settings.maxDepth (w.repository.refs.length + 1) patience w.repository.refs s
      (w.expandAll settings patience).2 = x.2 ∧
        (w.expandAll settings patience).1.web = { x.1.web with expanded := x.2.isNone || x.1.web.expanded } := by
  unfold expandAll
  rw [if_neg (by rw [h]; exact Bool.false_ne_true)]
  rcases hp : w.pending with _ | p
  · refine ⟨⟨w, #[]⟩, by rw [← hp], ?_⟩
    dsimp only
    rcases expandEach settings.maxDepth (w.repository.refs.length + 1) patience w.repository.refs ⟨w, #[]⟩ with
      ⟨s', _ | stop⟩ <;> exact ⟨rfl, rfl⟩
  · refine ⟨((Session.mk w #[]).log .warn "discarding unterminated continuation"
      [Attr.text "position" p.position.text]).modify fun w => { w with pending := none }, rfl, ?_⟩
    dsimp only
    rcases expandEach settings.maxDepth (w.repository.refs.length + 1) patience w.repository.refs
      (((Session.mk w #[]).log .warn "discarding unterminated continuation"
        [Attr.text "position" p.position.text]).modify fun w => { w with pending := none }) with
      ⟨s', _ | stop⟩ <;> exact ⟨rfl, rfl⟩

/-- **What a call that expands everything does.** -/
theorem Web.expandAll_spec (settings : Settings) (patience : Option Nat) {w : Web} (h : w.expanded = false)
    (hg : w.guard = []) : AllExpanded settings patience w (w.expandAll settings patience) := by
  obtain ⟨s, hw, hstop, hweb⟩ := expandAll_eq settings patience h
  have hx : EachExpanded settings.maxDepth patience w.repository.refs s.web
      (expandEach settings.maxDepth (w.repository.refs.length + 1) patience w.repository.refs s) :=
    expandEach_spec patience w.repository.refs s (.of_nil (by rw [hw]; exact hg))
      (by rw [hw]; exact Nat.lt_add_right _ (Nat.lt_succ_self _))
  generalize expandEach settings.maxDepth (w.repository.refs.length + 1) patience w.repository.refs s = x
    at hstop hweb hx
  rw [hw] at hx
  refine ⟨?_, ?_, fun ho ref hm => ?_, fun stop ho => ?_⟩
  · rw [hweb, hstop, hx.expands.frame]
    simp [h]
  · rw [hweb]
    exact hx.expands.expanding
  · rw [hweb]
    exact hx.ok (hstop ▸ ho) ref ((Repository.mem_refs_iff _ _).mpr hm)
  · have herror := hx.error stop (hstop ▸ ho)
    rw [hg] at herror
    exact herror

end Everything

end Literate
