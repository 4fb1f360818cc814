import Literate.Proofs.Meaning

/-!
# Expanding once more

An expansion that failed, or that was cancelled, has expanded some entities already. When everything is expanded once
more, these are passed over, and the rest is done as if nothing had happened: a later call ends as one that was never
interrupted would have (`expandEach_resume`, `Web.expandAll_resume`).

The reason is that expanding is repeatable (`expandRef_repeats`): done again in the web that it leaves behind, it has
the same result and changes nothing. If it went through, its reference is expanded. If it failed, so does the same
mention again, under the same guard: the pieces before it are expanded by then, and the references on the guard are not,
since no expansion touches what is on the guard (`expandRef_keeps`).
-/

namespace Literate

open Log

/-! ## Results apart from what is logged -/

/-- The same web and the same result, whatever was logged on the way. -/
def Agree {α : Type} (x y : Session × α) : Prop := x.1.web = y.1.web ∧ x.2 = y.2

namespace Agree

variable {α : Type} {x y z : Session × α}

theorem symm (h : Agree x y) : Agree y x := ⟨h.1.symm, h.2.symm⟩

theorem trans (h : Agree x y) (h' : Agree y z) : Agree x z := ⟨h.1.trans h'.1, h.2.trans h'.2⟩

end Agree

/-- An expander does not look at what was logged. -/
def Expander.Deaf (expand : Expander) : Prop :=
  ∀ ref source s t, t.web = s.web → Agree (expand ref source t) (expand ref source s)

section Deaf

variable {s t : Session}

theorem expandPieces_deaf {expand : Expander} (h : expand.Deaf) (ps : List Piece) (out : Array Element)
    (hw : t.web = s.web) : Agree (expandPieces expand ps out t) (expandPieces expand ps out s) := by
  induction ps generalizing out s t with
  | nil => exact ⟨hw, rfl⟩
  | cons p ps ih =>
    cases p with
    | line i => exact ih (out.push (.line i)) hw
    | mention ref u =>
      obtain ⟨hw', hr⟩ := h ref (some u) s t hw
      simp only [expandPieces]
      generalize expand ref (some u) t = x at hw' hr
      generalize expand ref (some u) s = y at hw' hr
      obtain ⟨t', r⟩ := x
      obtain ⟨s', r'⟩ := y
      obtain rfl : r = r' := hr
      cases r with
      | error stop => exact ⟨hw', rfl⟩
      | ok sub => exact ih (out ++ sub) hw'

end Deaf

/-! ## One reference -/

namespace Session

/-- One more reference is being expanded. -/
def enter (s : Session) (ref : Ref) : Session :=
  (s.modify fun w => { w with guard := w.guard ++ [ref] }).log .trace "expand"
    [Attr.text "ref" ref.text, Attr.int "depth" (s.web.guard.length + 1)]

/-- The innermost reference is no longer being expanded. -/
def leave (s : Session) : Session := s.modify fun w => { w with guard := w.guard.dropLast }

end Session

/-- The pieces of a reference are to be expanded. -/
structure Web.Enters (w : Web) (maxDepth : Int) (ref : Ref) (e : Entity) : Prop where
  notMem : ref ∉ w.guard
  find : w.repository.find? ref = some e
  unresolved : e.resolved = false
  depth : w.guard.length < maxDepth

section One

variable {maxDepth : Int} {bound : Nat} {ref : Ref} {source : Option Use} {s : Session}

/-- What is done when the pieces of a reference are to be expanded. -/
theorem expandRef_of_enters {e : Entity} (h : s.web.Enters maxDepth ref e) :
    expandRef maxDepth (bound + 1) ref source s =
      match expandPieces (expandRef maxDepth bound) e.pieces #[] (s.enter ref) with
      | (s, .ok out) =>
        (s.leave.modify fun w => { w with repository := w.repository.update ref fun _ => ⟨out, true⟩ }, .ok out)
      | (s, .error stop) => (s.leave, .error stop) := by
  have hd := h.depth
  rw [expandRef]
  dsimp only
  rw [if_neg h.notMem, h.find]
  dsimp only
  rw [h.unresolved, if_neg Bool.false_ne_true, if_neg (by omega), expandElements_eq]
  unfold Session.enter Entity.pieces
  rcases expandPieces (expandRef maxDepth bound) (piecesOf e.elements.toList) #[] _ with ⟨s', stop | out⟩ <;> rfl

/-- If its pieces are not to be expanded, a reference leaves the session as it is, and what it gives depends on the web
only. -/
theorem expandRef_cases (maxDepth : Int) (bound : Nat) (ref : Ref) (source : Option Use) (w : Web) :
    (∃ e, w.Enters maxDepth ref e) ∨
      ∃ r, ∀ s : Session, s.web = w → expandRef maxDepth (bound + 1) ref source s = (s, r) := by
  by_cases hm : ref ∈ w.guard
  · refine Or.inr ⟨.error (.failed (.referenceCycle w.guard ref source)), fun s hs => ?_⟩
    subst hs
    exact if_pos hm
  cases hf : w.repository.find? ref with
  | none =>
    refine Or.inr ⟨.error (w.undefinedStop ref source), fun s hs => ?_⟩
    subst hs
    unfold expandRef
    rw [if_neg hm, hf]
  | some e =>
    cases hr : e.resolved with
    | true =>
      refine Or.inr ⟨.ok e.elements, fun s hs => ?_⟩
      subst hs
      unfold expandRef
      rw [if_neg hm, hf]
      exact if_pos hr
    | false =>
      by_cases hd : maxDepth ≤ w.guard.length
      · refine Or.inr ⟨.error (.failed (.maxDepthExceeded maxDepth w.guard source)), fun s hs => ?_⟩
        subst hs
        unfold expandRef
        rw [if_neg hm, hf]
        dsimp only
        rw [hr, if_neg Bool.false_ne_true, if_pos hd]
      · exact Or.inl ⟨e, hm, hf, hr, by omega⟩

/-- A reference that is expanded, and not on the guard, is passed over. -/
theorem expandRef_of_resolved {out : Array Element} (hm : ref ∉ s.web.guard)
    (hf : s.web.repository.find? ref = some ⟨out, true⟩) :
    expandRef maxDepth (bound + 1) ref source s = (s, .ok out) := by
  unfold expandRef
  rw [if_neg hm, hf]
  exact if_pos rfl

/-- What is on the guard is not expanded. -/
theorem notMem_guard_of_ok {out : Array Element} (h : (expandRef maxDepth bound ref source s).2 = .ok out) :
    ref ∉ s.web.guard := by
  intro hm
  cases bound with
  | zero => cases h
  | succ bound =>
    unfold expandRef at h
    rw [if_pos hm] at h
    cases h

end One

theorem expandRef_deaf (maxDepth : Int) (bound : Nat) : (expandRef maxDepth bound).Deaf := by
  induction bound with
  | zero => exact fun _ _ _ _ hw => ⟨hw, rfl⟩
  | succ bound ih =>
    intro ref source s t hw
    rcases expandRef_cases maxDepth bound ref source s.web with ⟨e, he⟩ | ⟨r, hr⟩
    · rw [expandRef_of_enters he, expandRef_of_enters (hw ▸ he)]
      have hweb : (t.enter ref).web = (s.enter ref).web := congrArg (fun w : Web => { w with guard := w.guard ++ [ref] }) hw
      obtain ⟨hw', hr⟩ := expandPieces_deaf ih e.pieces #[] hweb
      generalize expandPieces (expandRef maxDepth bound) e.pieces #[] (t.enter ref) = x at hw' hr
      generalize expandPieces (expandRef maxDepth bound) e.pieces #[] (s.enter ref) = y at hw' hr
      obtain ⟨⟨v, _⟩, r⟩ := x
      obtain ⟨⟨v', _⟩, r'⟩ := y
      obtain rfl : v = v' := hw'
      obtain rfl : r = r' := hr
      cases r <;> exact ⟨rfl, rfl⟩
    · rw [hr s rfl, hr t hw]
      exact ⟨hw, rfl⟩

/-! ## What is on the guard -/

/-- The guard is left as it was, and so are the entities of the references on it. -/
def KeepsGuarded (w w' : Web) : Prop :=
  w'.guard = w.guard ∧ ∀ g ∈ w.guard, w'.repository.find? g = w.repository.find? g

namespace KeepsGuarded

variable {w w' w'' : Web}

theorem refl (w : Web) : KeepsGuarded w w := ⟨rfl, fun _ _ => rfl⟩

theorem trans (h : KeepsGuarded w w') (h' : KeepsGuarded w' w'') : KeepsGuarded w w'' :=
  ⟨h'.1.trans h.1, fun g hg => (h'.2 g (h.1 ▸ hg)).trans (h.2 g hg)⟩

end KeepsGuarded

theorem expandPieces_keeps {expand : Expander} (h : ∀ ref source s, KeepsGuarded s.web (expand ref source s).1.web)
    (ps : List Piece) (out : Array Element) (s : Session) :
    KeepsGuarded s.web (expandPieces expand ps out s).1.web := by
  induction ps generalizing out s with
  | nil => exact .refl _
  | cons p ps ih =>
    cases p with
    | line i => exact ih _ s
    | mention ref u =>
      have hfirst := h ref (some u) s
      simp only [expandPieces]
      generalize expand ref (some u) s = x at hfirst
      obtain ⟨s', stop | sub⟩ := x
      · exact hfirst
      · exact hfirst.trans (ih _ s')

/-- No expansion touches what is on the guard. -/
theorem expandRef_keeps (maxDepth : Int) (bound : Nat) (ref : Ref) (source : Option Use) (s : Session) :
    KeepsGuarded s.web (expandRef maxDepth bound ref source s).1.web := by
  induction bound generalizing ref source s with
  | zero => exact .refl _
  | succ bound ih =>
    rcases expandRef_cases maxDepth bound ref source s.web with ⟨e, he⟩ | ⟨r, hr⟩
    · rw [expandRef_of_enters he]
      obtain ⟨hg, hkeep⟩ := expandPieces_keeps ih e.pieces #[] (s.enter ref)
      generalize expandPieces (expandRef maxDepth bound) e.pieces #[] (s.enter ref) = x at hg hkeep
      have hguard : x.1.leave.web.guard = s.web.guard := by
        show x.1.web.guard.dropLast = _
        rw [hg]
        exact List.dropLast_concat
      have hold : ∀ g ∈ s.web.guard, x.1.leave.web.repository.find? g = s.web.repository.find? g :=
        fun g hm => hkeep g (List.mem_append_left _ hm)
      obtain ⟨s', stop | out⟩ := x
      · exact ⟨hguard, hold⟩
      · refine ⟨hguard, fun g hm => ?_⟩
        show (s'.leave.web.repository.update ref fun _ => ⟨out, true⟩).find? g = _
        rw [Repository.find?_update, if_neg fun hgr : g = ref => he.notMem (hgr ▸ hm)]
        exact hold g hm
    · rw [hr s rfl]
      exact .refl _

/-! ## Expanding the same again -/

/-- The guard holds different defined references, and fewer than `bound` further ones fit on it. -/
structure Fits (bound : Nat) (w : Web) : Prop extends Guarded w where
  room : w.repository.refs.length < bound + w.guard.length

theorem Fits.expands {bound : Nat} {w w' : Web} (h : Fits bound w) (he : Expands w w') : Fits bound w' where
  toGuarded := he.guarded h.toGuarded
  room := by
    rw [he.expanding.refs, he.guard]
    exact h.room

theorem Fits.enter {bound : Nat} {s : Session} {maxDepth : Int} {ref : Ref} {e : Entity} (h : Fits (bound + 1) s.web)
    (he : s.web.Enters maxDepth ref e) : Fits bound (s.enter ref).web where
  toGuarded := h.toGuarded.enter he.notMem (by rw [he.find]; rfl)
  room := by
    have hroom := h.room
    show s.web.repository.refs.length < bound + (s.web.guard ++ [ref]).length
    rw [List.length_append, List.length_singleton]
    omega

/-- An expansion in the web that it leaves behind has the same result, and changes nothing. -/
def Expander.Repeats (bound : Nat) (expand : Expander) : Prop :=
  ∀ ref source s t, Fits bound s.web → t.web = (expand ref source s).1.web →
    Agree (expand ref source t) (expand ref source s)

section Again

variable {maxDepth : Int}

/-- A reference that was expanded is passed over, even if others have been expanded since. -/
theorem expandRef_again {bound : Nat} {ref : Ref} {source : Option Use} {s t : Session} {out : Array Element}
    (hs : Fits bound s.web) (ho : (expandRef maxDepth bound ref source s).2 = .ok out)
    (ht : Expands (expandRef maxDepth bound ref source s).1.web t.web) :
    expandRef maxDepth bound ref source t = (t, .ok out) := by
  have hspec : RefExpanded maxDepth ref source s.web (expandRef maxDepth bound ref source s) :=
    expandRef_sound bound ref source s hs.toGuarded hs.room
  have hm : ref ∉ t.web.guard := by
    rw [ht.guard, hspec.expands.guard]
    exact notMem_guard_of_ok ho
  cases bound with
  | zero => exact nomatch ho
  | succ bound => exact expandRef_of_resolved hm (ht.expanding.find?_of_resolved (hspec.ok out ho).2 rfl)

theorem expandPieces_repeats {bound : Nat} (h : (expandRef maxDepth bound).Repeats bound) (ps : List Piece)
    (start : Array Element) {s t : Session} (hs : Fits bound s.web)
    (ht : t.web = (expandPieces (expandRef maxDepth bound) ps start s).1.web) :
    Agree (expandPieces (expandRef maxDepth bound) ps start t) (expandPieces (expandRef maxDepth bound) ps start s) := by
  induction ps generalizing start s t with
  | nil => exact ⟨ht, rfl⟩
  | cons p ps ih =>
    cases p with
    | line i => exact ih (start.push (.line i)) hs ht
    | mention ref u =>
      have hfirst : RefExpanded maxDepth ref (some u) s.web (expandRef maxDepth bound ref (some u) s) :=
        expandRef_sound bound ref (some u) s hs.toGuarded hs.room
      rcases hx : expandRef maxDepth bound ref (some u) s with ⟨s', stop | sub⟩
      · -- the mention fails again
        simp only [expandPieces, hx] at ht ⊢
        have hagain := h ref (some u) s t hs (by rw [hx]; exact ht)
        rw [hx] at hagain
        obtain ⟨hw, hr⟩ := hagain
        generalize expandRef maxDepth bound ref (some u) t = y at hw hr
        obtain ⟨t', r⟩ := y
        obtain rfl : r = _ := hr
        exact ⟨hw, rfl⟩
      · -- the mention is passed over
        simp only [expandPieces, hx] at ht ⊢
        rw [hx] at hfirst
        have hs' : Fits bound s'.web := hs.expands hfirst.expands
        have hrest : PiecesExpanded maxDepth ps (start ++ sub) s'.web _ :=
          expandPieces_spec (expandRef_sound bound) ps (start ++ sub) s' hs'.toGuarded hs'.room
        have hagain : expandRef maxDepth bound ref (some u) t = (t, .ok sub) :=
          expandRef_again hs (by rw [hx]) (by rw [hx, ht]; exact hrest.expands)
        rw [hagain]
        exact ih (start ++ sub) hs' ht

/-- **Expanding a reference is repeatable.** -/
theorem expandRef_repeats (bound : Nat) : (expandRef maxDepth bound).Repeats bound := by
  induction bound with
  | zero => exact fun ref source s t hs => absurd hs.room (by have := hs.toGuarded.length_le; omega)
  | succ bound ih =>
    intro ref source s t hs ht
    cases ho : (expandRef maxDepth (bound + 1) ref source s).2 with
    | ok out =>
      rw [expandRef_again hs ho (by rw [ht]; exact .refl _)]
      exact ⟨ht, ho.symm⟩
    | error stop =>
      rcases expandRef_cases maxDepth bound ref source s.web with ⟨e, he⟩ | ⟨r, hr⟩
      · rw [expandRef_of_enters he] at ht ho ⊢
        have hin : PiecesExpanded maxDepth e.pieces #[] (s.enter ref).web _ :=
          expandPieces_spec (expandRef_sound bound) e.pieces #[] (s.enter ref) (hs.enter he).toGuarded (hs.enter he).room
        have hkeep := (expandPieces_keeps (expandRef_keeps maxDepth bound) e.pieces #[] (s.enter ref)).2 ref
          (List.mem_append_right _ List.mem_cons_self)
        have hagain := @expandPieces_repeats maxDepth bound ih e.pieces #[] (s.enter ref) (t.enter ref) (hs.enter he)
        generalize expandPieces (expandRef maxDepth bound) e.pieces #[] (s.enter ref) = x at ht ho hin hkeep hagain ⊢
        obtain ⟨s', r⟩ := x
        cases r with
        | ok out => exact nomatch ho
        | error stop' =>
          have hleave : Expands s.web s'.leave.web := hin.expands.leave
          -- the reference is not expanded, and its pieces fail once more
          have hte : t.web.Enters maxDepth ref e := by
            rw [show t.web = s'.leave.web from ht]
            refine ⟨?_, hkeep.trans he.find, he.unresolved, ?_⟩
            · rw [hleave.guard]
              exact he.notMem
            · rw [hleave.guard]
              exact he.depth
          have hweb : (t.enter ref).web = s'.web := by
            show { t.web with guard := t.web.guard ++ [ref] } = s'.web
            rw [show t.web = s'.leave.web from ht, hleave.guard]
            show { s'.web with guard := s.web.guard ++ [ref] } = s'.web
            rw [show s.web.guard ++ [ref] = s'.web.guard from hin.expands.guard.symm]
          obtain ⟨hw, hr⟩ := hagain hweb
          rw [expandRef_of_enters hte]
          generalize expandPieces (expandRef maxDepth bound) e.pieces #[] (t.enter ref) = y at hw hr
          obtain ⟨⟨v, _⟩, r⟩ := y
          obtain rfl : v = s'.web := hw
          obtain rfl : r = _ := hr
          exact ⟨rfl, rfl⟩
      · rw [hr s rfl] at ht ho ⊢
        rw [hr t ht]
        exact ⟨ht, rfl⟩

end Again

/-! ## Expanding everything -/

section Everything

variable {maxDepth : Int} {bound : Nat} {s t : Session}

theorem expandEach_cons_of_ok {patience : Option Nat} (hp : patience ≠ some 0) {ref : Ref} {refs : List Ref}
    {s' : Session} {out : Array Element} (hx : expandRef maxDepth bound ref none s = (s', .ok out)) :
    expandEach maxDepth bound patience (ref :: refs) s =
      expandEach maxDepth bound (patience.map (· - 1)) refs s' := by
  rw [expandEach.eq_3 maxDepth bound patience s ref refs hp, hx]

theorem expandEach_cons_of_error {patience : Option Nat} (hp : patience ≠ some 0) {ref : Ref} {refs : List Ref}
    {s' : Session} {stop : Stop} (hx : expandRef maxDepth bound ref none s = (s', .error stop)) :
    expandEach maxDepth bound patience (ref :: refs) s = (s', some stop) := by
  rw [expandEach.eq_3 maxDepth bound patience s ref refs hp, hx]

theorem expandEach_deaf (patience : Option Nat) (refs : List Ref) (hw : t.web = s.web) :
    Agree (expandEach maxDepth bound patience refs t) (expandEach maxDepth bound patience refs s) := by
  induction refs generalizing patience s t with
  | nil =>
    unfold expandEach
    exact ⟨hw, rfl⟩
  | cons ref refs ih =>
    by_cases hp : patience = some 0
    · subst hp
      exact ⟨hw, rfl⟩
    obtain ⟨hw', hr⟩ := expandRef_deaf maxDepth bound ref none s t hw
    rcases hx : expandRef maxDepth bound ref none t with ⟨t', r⟩
    rcases hy : expandRef maxDepth bound ref none s with ⟨s', r'⟩
    rw [hx, hy] at hw' hr
    obtain rfl : r = r' := hr
    cases r with
    | error stop =>
      rw [expandEach_cons_of_error hp hx, expandEach_cons_of_error hp hy]
      exact ⟨hw', rfl⟩
    | ok out =>
      rw [expandEach_cons_of_ok hp hx, expandEach_cons_of_ok hp hy]
      exact ih (patience.map (· - 1)) hw'

/-- **What was left undone is done later.** However far references were expanded, if they are expanded once more to the
end, this ends as if they had been expanded to the end at once. -/
theorem expandEach_resume (patience : Option Nat) (refs : List Ref) (hs : Fits bound s.web)
    (ht : t.web = (expandEach maxDepth bound patience refs s).1.web) :
    Agree (expandEach maxDepth bound none refs t) (expandEach maxDepth bound none refs s) := by
  have hpatient : (none : Option Nat) ≠ some 0 := Option.some_ne_none 0 |>.symm
  induction refs generalizing patience s t with
  | nil =>
    refine expandEach_deaf none [] (ht.trans ?_)
    rw [expandEach]
  | cons ref refs ih =>
    by_cases hp : patience = some 0
    · subst hp
      exact expandEach_deaf none (ref :: refs) ht
    have hfirst : RefExpanded maxDepth ref none s.web (expandRef maxDepth bound ref none s) :=
      expandRef_sound bound ref none s hs.toGuarded hs.room
    rcases hx : expandRef maxDepth bound ref none s with ⟨s', stop | out⟩
    · rw [expandEach_cons_of_error hp hx] at ht
      have hagain := expandRef_repeats bound ref none s t hs (by rw [hx]; exact ht)
      rw [hx] at hagain
      obtain ⟨hw, hr⟩ := hagain
      rcases hy : expandRef maxDepth bound ref none t with ⟨t', r⟩
      rw [hy] at hw hr
      obtain rfl : r = _ := hr
      rw [expandEach_cons_of_error hpatient hx, expandEach_cons_of_error hpatient hy]
      exact ⟨hw, rfl⟩
    · rw [expandEach_cons_of_ok hp hx] at ht
      rw [hx] at hfirst
      have hs' : Fits bound s'.web := hs.expands hfirst.expands
      have hrest : EachExpanded maxDepth (patience.map (· - 1)) refs s'.web
          (expandEach maxDepth bound (patience.map (· - 1)) refs s') :=
        expandEach_spec (patience.map (· - 1)) refs s' hs'.toGuarded hs'.room
      have hagain : expandRef maxDepth bound ref none t = (t, .ok out) :=
        expandRef_again hs (by rw [hx]) (by rw [hx, ht]; exact hrest.expands)
      rw [expandEach_cons_of_ok hpatient hx, expandEach_cons_of_ok hpatient hagain]
      exact ih _ hs' ht

/-- References that were all expanded have been expanded to the end. -/
theorem expandEach_of_none {patience : Option Nat} {refs : List Ref}
    (h : (expandEach maxDepth bound patience refs s).2 = none) :
    expandEach maxDepth bound none refs s = expandEach maxDepth bound patience refs s := by
  induction refs generalizing patience s with
  | nil => rfl
  | cons ref refs ih =>
    by_cases hp : patience = some 0
    · subst hp
      exact nomatch h
    rcases hx : expandRef maxDepth bound ref none s with ⟨s', stop | out⟩
    · rw [expandEach_cons_of_error hp hx] at h
      exact nomatch h
    · rw [expandEach_cons_of_ok hp hx] at h ⊢
      rw [expandEach_cons_of_ok (Option.some_ne_none 0).symm hx]
      exact ih h

end Everything

/-- What is left of a call after its last reference: the web is expanded if nothing stopped it. -/
def Outcome.finish (x : Outcome) : Outcome :=
  (x.1.modify fun w => { w with expanded := x.2.isNone || w.expanded }, x.2)

theorem Agree.finish {x y : Outcome} (h : Agree x y) : Agree x.finish y.finish := by
  obtain ⟨hw, hr⟩ := h
  exact ⟨by simp only [Outcome.finish, Session.modify, hw, hr], hr⟩

namespace Web

variable (settings : Settings) {w : Web}

/-- Expanding everything leaves no reference on the guard if there was none before. -/
theorem guard_expandAll (hg : w.guard = []) (patience : Option Nat) :
    (w.expandAll settings patience).1.web.guard = [] := by
  cases hx : w.expanded with
  | true =>
    rw [expandAll_of_expanded settings patience hx]
    exact hg
  | false =>
    rw [(expandAll_spec settings patience hx hg).frame]
    exact hg

/-- Whatever was logged before, expanding everything is expanding its references and finishing. -/
theorem expandAll_agree (patience : Option Nat) (hx : w.expanded = false) {s : Session}
    (hs : s.web = { w with pending := none }) :
    Agree (w.expandAll settings patience)
      (Outcome.finish (expandEach settings.maxDepth (w.repository.refs.length + 1) patience w.repository.refs s)) := by
  obtain ⟨t, ht, hstop, hweb⟩ := expandAll_eq settings patience hx
  have hfinish : Agree (w.expandAll settings patience) (Outcome.finish _) := ⟨hweb, hstop⟩
  exact hfinish.trans (.finish (expandEach_deaf patience w.repository.refs (ht.trans hs.symm)))

/-- **A call ends as if the one before had never been made**, whatever became of that. -/
theorem expandAll_resume (hg : w.guard = []) (patience : Option Nat) :
    Agree ((w.expandAll settings patience).1.web.expandAll settings none) (w.expandAll settings none) := by
  cases hx : w.expanded with
  | true =>
    rw [expandAll_of_expanded settings patience hx]
    exact ⟨rfl, rfl⟩
  | false =>
    let s : Session := ⟨{ w with pending := none }, #[]⟩
    have hfits : Fits (w.repository.refs.length + 1) s.web :=
      ⟨.of_nil hg, Nat.lt_add_right _ (Nat.lt_succ_self _)⟩
    have hfirst := expandAll_agree settings patience hx (s := s) rfl
    have hwhole := expandAll_agree settings none hx (s := s) rfl
    have hspec : EachExpanded settings.maxDepth patience w.repository.refs s.web _ :=
      expandEach_spec patience w.repository.refs s hfits.toGuarded hfits.room
    rcases hparts : expandEach settings.maxDepth (w.repository.refs.length + 1) patience w.repository.refs s with
      ⟨s', _ | stop⟩
    · -- nothing is left to do
      rw [hparts] at hfirst
      rw [expandEach_of_none (congrArg Prod.snd hparts), hparts] at hwhole
      rw [expandAll_of_expanded settings none (congrArg Web.expanded hfirst.1)]
      exact ⟨hfirst.1.trans hwhole.1.symm, hwhole.2.symm⟩
    · rw [hparts] at hfirst hspec
      have hweb : (w.expandAll settings patience).1.web = s'.web := hfirst.1
      have hframe := hspec.expands.frame
      have hrefs : s'.web.repository.refs = w.repository.refs := hspec.expands.expanding.refs
      have hagain := expandAll_agree settings none (w := s'.web) (s := s') (by rw [hframe]; exact hx) (by rw [hframe])
      rw [hrefs] at hagain
      rw [hweb]
      exact (hagain.trans (.finish (expandEach_resume patience _ hfits (by rw [hparts])))).trans hwhole.symm

/-- Calls that expand everything, one after another, leave the last one to end as it would have without them. -/
theorem expandAll_resume_run (hg : w.guard = []) (patiences : List (Option Nat)) :
    Agree ((run settings (patiences.map .expandAll) w).expandAll settings none) (w.expandAll settings none) := by
  induction patiences generalizing w with
  | nil => exact ⟨rfl, rfl⟩
  | cons patience patiences ih =>
    exact (ih (guard_expandAll settings hg patience)).trans (expandAll_resume settings hg patience)

/-- What an expansion that stops has made of a web into which documents were read: some entities hold the lines that
they mean, and these only, and everything else is as it was. -/
theorem Fresh.half_flattened (h : w.Fresh) {stop : Stop} (hs : (w.expandAll settings none).2 = some stop) :
    let w' := (w.expandAll settings none).1.web
    w' = { w with pending := none, repository := w'.repository } ∧
    (∀ k, w'.repository.names k = w.repository.names k) ∧
    ∀ ref, w'.repository.find? ref = w.repository.find? ref ∨ ∃ e is, w.repository.find? ref = some e ∧
      Flattens w.repository e.pieces is ∧ w'.repository.find? ref = some ⟨(is.map .line).toArray, true⟩ := by
  have hspec := expandAll_spec settings none h.expanded h.sound.guard
  refine ⟨?_, hspec.expanding.names, fun ref => ?_⟩
  · have hframe := hspec.frame
    rw [hs, show Option.isNone (some stop) = w.expanded from h.expanded.symm] at hframe
    exact hframe
  · rcases hspec.expanding.entity ref with hsame | ⟨e, out, he, _, hout, hf⟩
    · exact Or.inl hsame
    · obtain ⟨is, his, rfl⟩ := hout.flattens h.unresolved
      exact Or.inr ⟨e, is, he, his, hf⟩

/-- **Expansion can be tried again.** Documents were read. If expanding the web stops, then it is not expanded, no
reference is on the guard, some entities hold the lines that they mean, and everything else is as it was, except that no
line waits for its continuation. Expanding it again stops for the same reason, and changes nothing. And however often
expansion was cancelled, or tried, wherever this was: the next call that goes on to the end stops for the same reason,
if it does, as the first would have, and leaves the same web. -/
theorem expandAll_retry (settings : Settings) (readings : List Reading) :
    let w := read settings readings .empty
    (∀ stop, (w.expandAll settings none).2 = some stop →
      let w' := (w.expandAll settings none).1.web
      w'.expanded = false ∧ w'.guard = [] ∧
      w' = { w with pending := none, repository := w'.repository } ∧
      (∀ k, w'.repository.names k = w.repository.names k) ∧
      (∀ ref, w'.repository.find? ref = w.repository.find? ref ∨ ∃ e is, w.repository.find? ref = some e ∧
        Flattens w.repository e.pieces is ∧ w'.repository.find? ref = some ⟨(is.map .line).toArray, true⟩) ∧
      (w'.expandAll settings none).2 = some stop ∧ (w'.expandAll settings none).1.web = w') ∧
    ∀ patiences : List (Option Nat),
      let v := run settings (patiences.map .expandAll) w
      (v.expandAll settings none).2 = (w.expandAll settings none).2 ∧
        (v.expandAll settings none).1.web = (w.expandAll settings none).1.web := by
  intro w
  have hw : w.Fresh := read_fresh settings readings
  refine ⟨fun stop hs => ?_, fun patiences => ?_⟩
  · obtain ⟨hframe, hnames, hentities⟩ := hw.half_flattened settings hs
    obtain ⟨hweb, hstop⟩ := expandAll_resume settings hw.sound.guard none
    refine ⟨?_, guard_expandAll settings hw.sound.guard none, hframe, hnames, hentities, hstop.trans hs, hweb⟩
    rw [hframe]
    exact hw.expanded
  · obtain ⟨hweb, hstop⟩ := expandAll_resume_run settings hw.sound.guard patiences
    exact ⟨hstop, hweb⟩

/-- A document in which a chunk uses another one, and then one that is not defined. -/
def unfinished : List Reading :=
  [.parse (.ofList []) true "f" { text :=
    "=begin litweb\n=begin_chunk a\nx\n=end_chunk a\n=begin_chunk b\n=use_chunk a c\n=end_chunk b\n" }]

/-- Its expansion stops when one chunk is expanded, which it stays. -/
theorem expandAll_retry_unfinished :
    let w := read .standard unfinished .empty
    let w' := (w.expandAll .standard none).1.web
    w.repository.isResolved ⟨.chunk, "a"⟩ = false ∧ w'.repository.isResolved ⟨.chunk, "a"⟩ ∧ w'.expanded = false ∧
      (w'.expandAll .standard none).2 = (w.expandAll .standard none).2 ∧ (w'.expandAll .standard none).1.web = w' := by
  obtain ⟨hfails, -⟩ := expandAll_retry .standard unfinished
  have hstop : ((read .standard unfinished .empty).expandAll .standard none).2.isSome := by decide
  obtain ⟨stop, hs⟩ := Option.isSome_iff_exists.mp hstop
  obtain ⟨hexpanded, -, -, -, -, hagain, hweb⟩ := hfails stop hs
  exact ⟨by decide, by decide, hexpanded, hagain.trans hs.symm, hweb⟩

end Web

end Literate
