import Literate.Proofs.Resumption

/-!
# Expanding one piece after another

References that are expanded inside each other are worked on like drafts on a bench: the pieces of the innermost draft
are dealt with one by one, a mention of what is not expanded puts a new draft in front, and a draft that is finished
becomes the entity of its reference and a part of the draft behind it. `Bench.step?` is one such step. It knows no bound
on the number of drafts, apart from the depth that is allowed.

The main statement is that expanding everything is what these steps lead to (`expandAll_leads`). So whatever every step
keeps holds at every moment of a call. One such thing is that the guard lists the drafts, the outermost first, and that
there are never more of them than are allowed (`Bench.Stacked`, kept by one step in `Stacked.step`).
-/

namespace Literate

open Log

/-- A reference that is being expanded: its pieces that are left, and its elements so far. -/
structure Draft where
  ref : Ref
  rest : List Piece
  out : Array Element

/-- The references that are being expanded, the innermost first, those that are to be expanded after them, and why
expansion was given up, if it was. -/
structure Bench where
  session : Session
  drafts : List Draft
  waiting : List Ref
  stop : Option Stop := none

namespace Bench

/-- The bench on which a call begins to expand a web. -/
def start (w : Web) : Bench where
  session := ⟨{ w with pending := none }, #[]⟩
  drafts := []
  waiting := w.repository.refs

/-- Hands elements to the draft that is in front, if there is one. -/
def supply (sub : Array Element) : List Draft → List Draft
  | [] => []
  | d :: behind => { d with out := d.out ++ sub } :: behind

/-- What becomes of a bench by the result of a reference that it came to. -/
def resume (b : Bench) : Expansion → Bench
  | (s, .ok sub) => { b with session := s, drafts := supply sub b.drafts }
  | (s, .error stop) => { b with session := s, stop := some stop }

/-- Comes to a reference: gives up, takes its elements, or puts a draft of it in front. -/
def meet (maxDepth : Int) (ref : Ref) (source : Option Use) (b : Bench) : Bench :=
  let w := b.session.web
  if ref ∈ w.guard then { b with stop := some (.failed (.referenceCycle w.guard ref source)) }
  else match w.repository.find? ref with
    | none => { b with stop := some (w.undefinedStop ref source) }
    | some e =>
      if e.resolved then { b with drafts := supply e.elements b.drafts }
      else if maxDepth ≤ w.guard.length then
        { b with stop := some (.failed (.maxDepthExceeded maxDepth w.guard source)) }
      else { b with session := b.session.enter ref, drafts := ⟨ref, e.pieces, #[]⟩ :: b.drafts }

/-- Deals with the next piece of the draft in front. If none is left, the draft is finished; if there is no draft, the
next reference is come to. When expansion was given up, the draft is thrown away. -/
def step? (maxDepth : Int) (b : Bench) : Option Bench :=
  match b.drafts, b.stop with
  | [], some _ => none
  | _ :: behind, some _ => some { b with session := b.session.leave, drafts := behind }
  | [], none =>
    match b.waiting with
    | [] => none
    | ref :: refs => some (meet maxDepth ref none { b with waiting := refs })
  | ⟨ref, [], out⟩ :: behind, none =>
    some { b with
      session := b.session.leave.modify fun w => { w with repository := w.repository.update ref fun _ => ⟨out, true⟩ }
      drafts := supply out behind }
  | ⟨ref, .line i :: rest, out⟩ :: behind, none =>
    some { b with drafts := ⟨ref, rest, out.push (.line i)⟩ :: behind }
  | ⟨ref, .mention a u :: rest, out⟩ :: behind, none =>
    some (meet maxDepth a (some u) { b with drafts := ⟨ref, rest, out⟩ :: behind })

/-- One bench becomes another by any number of steps. -/
abbrev Leads (maxDepth : Int) : Bench → Bench → Prop := Relation.ReflTransGen fun b c => step? maxDepth b = some c

end Bench

/-! ## Steps lead to what expansion gives -/

section Leading

variable {maxDepth : Int}

/-- A bench that comes to a reference either puts a draft in front, or does what the reference gives. -/
theorem Bench.meet_cases (maxDepth : Int) (bound : Nat) (ref : Ref) (source : Option Use) (b : Bench) :
    (∃ e, b.session.web.Enters maxDepth ref e ∧ meet maxDepth ref source b =
      { b with session := b.session.enter ref, drafts := ⟨ref, e.pieces, #[]⟩ :: b.drafts }) ∨
    ∃ r, expandRef maxDepth (bound + 1) ref source b.session = (b.session, r) ∧
      meet maxDepth ref source b = b.resume (b.session, r) := by
  unfold meet expandRef
  by_cases hm : ref ∈ b.session.web.guard
  · exact Or.inr ⟨_, if_pos hm, if_pos hm⟩
  dsimp only
  rw [if_neg hm, if_neg hm]
  cases hf : b.session.web.repository.find? ref with
  | none => exact Or.inr ⟨_, rfl, rfl⟩
  | some e =>
    dsimp only
    cases hr : e.resolved with
    | true => exact Or.inr ⟨_, rfl, rfl⟩
    | false =>
      rw [if_neg Bool.false_ne_true, if_neg Bool.false_ne_true]
      by_cases hd : maxDepth ≤ b.session.web.guard.length
      · rw [if_pos hd, if_pos hd]
        exact Or.inr ⟨_, rfl, rfl⟩
      · exact Or.inl ⟨e, ⟨hm, hf, hr, by omega⟩, if_neg hd⟩

/-- Wherever a bench comes to a reference, the steps lead to what the expander gives. -/
def Expander.Leads (maxDepth : Int) (bound : Nat) (expand : Expander) : Prop :=
  ∀ ref source (b : Bench), b.stop = none → Fits bound b.session.web →
    Bench.Leads maxDepth (b.meet maxDepth ref source) (b.resume (expand ref source b.session))

/-- The steps lead to the end of a draft, unless expansion is given up before. -/
theorem expandPieces_leads {bound : Nat} (h : (expandRef maxDepth bound).Leads maxDepth bound) (ps : List Piece)
    (start : Array Element) {s : Session} (hs : Fits bound s.web) (ref : Ref) (behind : List Draft)
    (waiting : List Ref) :
    ∃ d stop, d.ref = ref ∧
      Bench.Leads maxDepth ⟨s, ⟨ref, ps, start⟩ :: behind, waiting, none⟩
        ⟨(expandPieces (expandRef maxDepth bound) ps start s).1, d :: behind, waiting, stop⟩ ∧
      match (expandPieces (expandRef maxDepth bound) ps start s).2 with
      | .ok out => d = ⟨ref, [], out⟩ ∧ stop = none
      | .error e => stop = some e := by
  induction ps generalizing start s with
  | nil => exact ⟨⟨ref, [], start⟩, none, rfl, .refl, rfl, rfl⟩
  | cons p ps ih =>
    cases p with
    | line i =>
      obtain ⟨d, stop, hd, hl, hend⟩ := ih (start.push (.line i)) hs
      exact ⟨d, stop, hd, .head rfl hl, hend⟩
    | mention a u =>
      have hfirst : Bench.Leads maxDepth _ _ := h a (some u) ⟨s, ⟨ref, ps, start⟩ :: behind, waiting, none⟩ rfl hs
      have hspec : RefExpanded maxDepth a (some u) s.web (expandRef maxDepth bound a (some u) s) :=
        expandRef_sound bound a (some u) s hs.toGuarded hs.room
      simp only [expandPieces]
      rcases hx : expandRef maxDepth bound a (some u) s with ⟨s', e | sub⟩
      · rw [hx] at hfirst
        exact ⟨⟨ref, ps, start⟩, some e, rfl, .head rfl hfirst, rfl⟩
      · rw [hx] at hfirst hspec
        obtain ⟨d, stop, hd, hl, hend⟩ := ih (start ++ sub) (hs.expands hspec.expands)
        exact ⟨d, stop, hd, .head rfl (hfirst.trans hl), hend⟩

/-- **Expanding a reference is what the steps lead to.** -/
theorem expandRef_leads (bound : Nat) : (expandRef maxDepth bound).Leads maxDepth bound := by
  induction bound with
  | zero => exact fun ref source b _ hs => absurd hs.room (by have := hs.toGuarded.length_le; omega)
  | succ bound ih =>
    intro ref source b hb hs
    rcases b.meet_cases maxDepth bound ref source with ⟨e, he, hmeet⟩ | ⟨r, hr, hmeet⟩
    · obtain ⟨s, drafts, waiting, stop⟩ := b
      obtain rfl : stop = none := hb
      obtain ⟨d, stop, hd, hl, hend⟩ := expandPieces_leads ih e.pieces #[] (hs.enter he) ref drafts waiting
      rw [hmeet, expandRef_of_enters he]
      generalize expandPieces (expandRef maxDepth bound) e.pieces #[] (s.enter ref) = x at hl hend
      obtain ⟨s', stop' | out⟩ := x
      · obtain rfl : stop = some stop' := hend
        exact hl.tail rfl
      · obtain ⟨rfl, rfl⟩ : d = ⟨ref, [], out⟩ ∧ stop = none := hend
        exact hl.tail rfl
    · rw [hmeet, hr]

variable (maxDepth) in
theorem expandEach_leads {bound : Nat} (refs : List Ref) {s : Session} (hs : Fits bound s.web) :
    ∃ left, Bench.Leads maxDepth ⟨s, [], refs, none⟩
        ⟨(expandEach maxDepth bound none refs s).1, [], left, (expandEach maxDepth bound none refs s).2⟩ ∧
      ((expandEach maxDepth bound none refs s).2 = none → left = []) := by
  have hpatient : (none : Option Nat) ≠ some 0 := Option.some_ne_none 0 |>.symm
  induction refs generalizing s with
  | nil => exact ⟨[], .refl, fun _ => rfl⟩
  | cons ref refs ih =>
    have hfirst : Bench.Leads maxDepth _ _ := expandRef_leads bound ref none ⟨s, [], refs, none⟩ rfl hs
    have hspec : RefExpanded maxDepth ref none s.web (expandRef maxDepth bound ref none s) :=
      expandRef_sound bound ref none s hs.toGuarded hs.room
    rcases hx : expandRef maxDepth bound ref none s with ⟨s', stop | out⟩
    · rw [expandEach_cons_of_error hpatient hx]
      rw [hx] at hfirst
      exact ⟨refs, .head rfl hfirst, fun h => nomatch h⟩
    · rw [expandEach_cons_of_ok hpatient hx]
      rw [hx] at hfirst hspec
      obtain ⟨left, hl, hend⟩ := ih (hs.expands hspec.expands)
      exact ⟨left, .head rfl (hfirst.trans hl), hend⟩

end Leading

/-- **Expanding everything is what the steps lead to**: a bench without drafts, from which no step leads on. -/
theorem Web.expandAll_leads (settings : Settings) {w : Web} (hx : w.expanded = false) (hg : w.guard = []) :
    ∃ b, Bench.Leads settings.maxDepth (.start w) b ∧ b.step? settings.maxDepth = none ∧ b.drafts = [] ∧
      b.stop = (w.expandAll settings none).2 ∧
      (w.expandAll settings none).1.web = { b.session.web with expanded := b.stop.isNone } := by
  have hs : Fits (w.repository.refs.length + 1) (Bench.start w).session.web :=
    ⟨.of_nil hg, Nat.lt_add_right _ (Nat.lt_succ_self _)⟩
  have hspec : EachExpanded settings.maxDepth none w.repository.refs (Bench.start w).session.web _ :=
    expandEach_spec none w.repository.refs (Bench.start w).session hs.toGuarded hs.room
  obtain ⟨left, hl, hend⟩ := expandEach_leads settings.maxDepth w.repository.refs hs
  obtain ⟨hweb, hstop⟩ := expandAll_agree settings none hx (s := (Bench.start w).session) rfl
  generalize expandEach settings.maxDepth (w.repository.refs.length + 1) none w.repository.refs
    (Bench.start w).session = x at hl hend hweb hstop hspec
  obtain ⟨s, stop⟩ := x
  refine ⟨⟨s, [], left, stop⟩, hl, ?_, rfl, hstop.symm, ?_⟩
  · cases stop with
    | none => rw [hend rfl]; rfl
    | some stop => rfl
  · have hexpanded : s.web.expanded = false := by rw [hspec.expands.frame]; exact hx
    rw [hweb, Outcome.finish, Session.modify, hexpanded, Bool.or_false]

/-! ## The drafts on the bench -/

namespace Bench

variable {maxDepth : Int} {b c : Bench}

/-- The guard lists the drafts, the outermost first, and there are no more of them than are allowed. -/
structure Stacked (maxDepth : Int) (b : Bench) : Prop where
  guard : b.session.web.guard = (b.drafts.map Draft.ref).reverse
  length : b.drafts.length ≤ maxDepth.toNat

theorem map_ref_supply (sub : Array Element) (drafts : List Draft) :
    (supply sub drafts).map Draft.ref = drafts.map Draft.ref := by
  cases drafts <;> rfl

namespace Stacked

theorem start {w : Web} (hg : w.guard = []) : Stacked maxDepth (.start w) := ⟨hg, Nat.zero_le _⟩

/-- Nothing else of a bench matters. -/
theorem congr (h : Stacked maxDepth b) (hg : c.session.web.guard = b.session.web.guard)
    (hd : c.drafts.map Draft.ref = b.drafts.map Draft.ref) : Stacked maxDepth c where
  guard := by rw [hg, hd, h.guard]
  length := by rw [← List.length_map Draft.ref, hd, List.length_map]; exact h.length

/-- The draft in front is taken away. -/
theorem leave (h : Stacked maxDepth b) {d : Draft} {behind : List Draft} (hb : b.drafts = d :: behind)
    (hg : c.session.web.guard = b.session.web.guard.dropLast) (hd : c.drafts.map Draft.ref = behind.map Draft.ref) :
    Stacked maxDepth c where
  guard := by rw [hg, hd, h.guard, hb, List.map_cons, List.reverse_cons, List.dropLast_concat]
  length := by
    have hlength := h.length
    rw [hb, List.length_cons] at hlength
    rw [← List.length_map Draft.ref, hd, List.length_map]
    omega

theorem meet (h : Stacked maxDepth b) (ref : Ref) (source : Option Use) :
    Stacked maxDepth (b.meet maxDepth ref source) := by
  rcases b.meet_cases maxDepth 0 ref source with ⟨e, he, hmeet⟩ | ⟨r, -, hmeet⟩
  · rw [hmeet]
    refine ⟨?_, ?_⟩
    · show b.session.web.guard ++ [ref] = _
      rw [h.guard, List.map_cons, List.reverse_cons]
    · -- the guard was not yet as long as is allowed
      have hdepth := he.depth
      rw [h.guard, List.length_reverse, List.length_map] at hdepth
      rw [List.length_cons]
      omega
  · rw [hmeet]
    cases r with
    | ok sub => exact h.congr rfl (map_ref_supply sub b.drafts)
    | error stop => exact h.congr rfl rfl

/-- Every step keeps the guard in agreement with the drafts, and within the limit. -/
theorem step (h : Stacked maxDepth b) (hs : step? maxDepth b = some c) : Stacked maxDepth c := by
  obtain ⟨s, drafts, waiting, stop⟩ := b
  cases stop with
  | some stop =>
    cases drafts with
    | nil => exact nomatch hs
    | cons d behind =>
      obtain rfl : _ = c := Option.some.inj hs
      exact h.leave rfl rfl rfl
  | none =>
    rcases drafts with _ | ⟨⟨ref, _ | ⟨i | ⟨a, u⟩, rest⟩, out⟩, behind⟩
    · cases waiting with
      | nil => exact nomatch hs
      | cons ref refs =>
        obtain rfl := Option.some.inj hs
        refine meet ?_ ref none
        exact h.congr rfl rfl
    · obtain rfl := Option.some.inj hs
      exact h.leave rfl rfl (map_ref_supply out behind)
    · obtain rfl := Option.some.inj hs
      exact h.congr rfl rfl
    · obtain rfl := Option.some.inj hs
      refine meet ?_ a (some u)
      exact h.congr rfl rfl

theorem leads (h : Stacked maxDepth b) (hl : Leads maxDepth b c) : Stacked maxDepth c := by
  induction hl with
  | refl => exact h
  | tail _ hs ih => exact ih.step hs

/-- There are never more references on the guard than are allowed. -/
theorem length_guard_le (h : Stacked maxDepth b) : b.session.web.guard.length ≤ maxDepth.toNat := by
  rw [h.guard, List.length_reverse, List.length_map]
  exact h.length

end Stacked

end Bench

end Literate
