import Literate.Proofs.Cycles
import Literate.Proofs.Faults
import Literate.Proofs.Placement

/-!
# What failures of expansion tell

A failure of expansion names the references that were being expanded, and where the use stands that could not be
followed. Both are true of the documents as they were read (`expandAll_reports`): the references are a trail, that is,
different defined references of which each mentions the next one (`Repository.Trail`), and the use is one of the last of
them (`Reached`). A cycle is reported as a trail and one of its references once more, and the depth of a trail that is
too deep is the depth that is allowed.

All this holds of every problem that is to blame (`Blames.trail`, `Blames.reached`, `Blames.guard_length`), by induction
along the guard. So the entities that were expanded before the failure play no part in it.
-/

namespace Literate

open Log Failure

/-! ## Trails -/

namespace Repository

/-- The entity of `a` has the use `u`, which names `b`. -/
def Uses (r : Repository) (a : Ref) (u : Use) (b : Ref) : Prop :=
  ∃ e, r.find? a = some e ∧ .use u ∈ e.elements.toList ∧ b ∈ u.refs

/-- Different defined references, of which each mentions the next one. -/
structure Trail (r : Repository) (path : List Ref) : Prop where
  chain : path.IsChain r.Mentions
  nodup : path.Nodup
  defined : ∀ ref ∈ path, (r.find? ref).isSome

variable {r : Repository}

theorem Placed.of_uses (h : r.Placed) {a b : Ref} {u : Use} (hu : r.Uses a u b) : u.Placed := by
  obtain ⟨e, he, hm, -⟩ := hu
  exact h a e he u hm

end Repository

/-- How a reference is come to: on its own, or by a use of the last reference on the guard. -/
inductive Reached (r : Repository) : (guard : List Ref) → Option Use → Ref → Prop
  | alone {ref} : Reached r [] none ref
  | used {before last u ref} : r.Uses last u ref → Reached r (before ++ [last]) (some u) ref

/-! ## Problems -/

section Problems

variable {r : Repository} {maxDepth : Int} {guard : List Ref} {ref : Ref} {source : Option Use} {p : Problem}

theorem Blames.reached (h : Blames r maxDepth guard ref source p) (hr : Reached r guard source ref) :
    Reached r p.guard p.source p.ref := by
  induction h with
  | cycle _ => exact hr
  | undefined _ _ => exact hr
  | depth _ _ _ _ => exact hr
  | inside _ he _ _ hp _ _ ih =>
    refine ih (.used ⟨_, he, ?_⟩)
    exact mem_pieces_mention.mp (by rw [← Entity.pieces, hp]; exact List.mem_append_right _ List.mem_cons_self)

/-- The references that lead to a problem are a trail. -/
theorem Blames.trail (h : Blames r maxDepth [] ref source p) : r.Trail p.guard := by
  obtain ⟨hn, hd⟩ := h.guarded (.of_nil rfl)
  exact ⟨(h.walk (.nil r ref)).left_of_append, hn, hd⟩

/-- No more references are nested than are allowed. -/
theorem Blames.guard_length_le (h : Blames r maxDepth guard ref source p) (hg : guard.length ≤ maxDepth.toNat) :
    p.guard.length ≤ maxDepth.toNat := by
  induction h with
  | cycle _ => exact hg
  | undefined _ _ => exact hg
  | depth _ _ _ _ => exact hg
  | inside _ _ _ hd _ _ _ ih =>
    refine ih ?_
    rw [List.length_append, List.length_singleton]
    omega

/-- Where depth is to blame, as many references are nested as are allowed. -/
theorem Blames.guard_length (h : Blames r maxDepth [] ref source p) (hc : p.cause = .depth) :
    p.guard.length = maxDepth.toNat := by
  have hle := h.guard_length_le (Nat.zero_le _)
  rcases h.cause with ⟨hc', _⟩ | ⟨hc', _⟩ | ⟨_, _, _, hd⟩
  · exact absurd (hc.symm.trans hc') (by decide)
  · exact absurd (hc.symm.trans hc') (by decide)
  · omega

end Problems

/-! ## Failures -/

theorem Fault.message_ne_nil (g : Fault) : g.message ≠ [] := by cases g <;> decide

/-- What is logged of a failure that was made from a fault: its message, its cause and its attributes. -/
theorem Failure.attrs_own (g : Fault) (as : List Attr) (causes : List Layer) :
    (Failure.mk (.own 0 (some (.fault g)) g.message as) causes).attrs = Attr.text "error" g.message ::
      (((Failure.mk (.own 0 (some (.fault g)) g.message as) causes).cause.toList.map fun c =>
        Attr.text "cause" c.message) ++ as) := by
  have hm : ¬ (Failure.mk (.own 0 (some (.fault g)) g.message as) causes).head.message = [] := g.message_ne_nil
  unfold attrs
  rw [if_neg hm]
  rfl

section Attributes

variable {u : Use} (hu : u.Placed)
include hu

/-- What is logged of a cycle at a use. -/
theorem Failure.attrs_referenceCycle (guard : List Ref) (ref : Ref) :
    (referenceCycle guard ref (some u)).attrs =
      [Attr.text "error" Fault.referenceCycle.message,
        Attr.text "cause" (chainText ((guard ++ [ref]).map Ref.text)), Attr.text "position" u.position.text,
        Attr.text "directive" u.directive, guardAttr guard] := by
  unfold referenceCycle
  rw [locatedUse_of_placed _ hu]
  exact attrs_own .referenceCycle _ _

/-- What is logged of too many nested references at a use. -/
theorem Failure.attrs_maxDepthExceeded (maxDepth : Int) (guard : List Ref) :
    (maxDepthExceeded maxDepth guard (some u)).attrs =
      [Attr.text "error" Fault.maxDepthExceeded.message, Attr.text "position" u.position.text,
        Attr.text "directive" u.directive, Attr.int "max_depth" maxDepth, guardAttr guard] := by
  unfold maxDepthExceeded
  rw [locatedUse_of_placed _ hu]
  exact attrs_own .maxDepthExceeded _ _

/-- What is logged of an undefined reference at a use, before what is suggested instead. -/
theorem Failure.attrs_undefinedReference (ref : Ref) {guard : List Ref} (hg : guard ≠ []) (suggested : List Text)
    (other : Option Ref) :
    ∃ more, (undefinedReference ref (some u) guard suggested other).attrs =
      [Attr.text "error" Fault.undefinedReference.message, Attr.text "cause" ref.text,
        Attr.text "position" u.position.text, Attr.text "directive" u.directive, Attr.text "kind" ref.kind.text,
        Attr.text "name" ref.name, guardAttr guard] ++ more := by
  unfold undefinedReference
  rw [locatedUse_of_placed _ hu, List.isEmpty_eq_false_iff.mpr hg, if_neg Bool.false_ne_true, List.append_assoc]
  exact ⟨_, attrs_own .undefinedReference _ _⟩

end Attributes

/-! ## What is reported -/

theorem Cause.fault_inj {c d : Cause} : c.fault = d.fault ↔ c = d := by cases c <;> cases d <;> decide

section Reports

variable {r : Repository} {maxDepth : Int} {a : Ref} {p : Problem} {f : Failure}
variable (hr : r.Placed) (hb : Blames r maxDepth [] a none p) (hf : p.stop r maxDepth = .failed f)
include hr hb hf

/-- A cycle is reported as a trail with one of its references once more. -/
theorem Blames.reports_cycle (hc : p.cause = .cycle) : ∃ before last u ref,
    r.Trail (before ++ [last]) ∧ r.Uses last u ref ∧ ref ∈ before ++ [last] ∧
      f.attrs = [Attr.text "error" Fault.referenceCycle.message,
        Attr.text "cause" (chainText ((before ++ [last] ++ [ref]).map Ref.text)),
        Attr.text "position" u.position.text, Attr.text "directive" u.directive, guardAttr (before ++ [last])] := by
  have htrail := hb.trail
  have hreached := hb.reached .alone
  have hm : p.ref ∈ p.guard := by simpa [hc] using hb.cause
  obtain ⟨cause, guard, ref, source⟩ := p
  obtain rfl : cause = .cycle := hc
  obtain rfl := Stop.failed.inj hf
  cases hreached with
  | alone => exact absurd hm List.not_mem_nil
  | used hu => exact ⟨_, _, _, _, htrail, hu, hm, attrs_referenceCycle (hr.of_uses hu) _ _⟩

/-- An undefined reference is reported with the use that names it, unless it was to be expanded itself. -/
theorem Blames.reports_undefined (ha : (r.find? a).isSome) (hc : p.cause = .undefined) : ∃ before last u ref more,
    r.Trail (before ++ [last]) ∧ r.Uses last u ref ∧ r.find? ref = none ∧
      f.attrs = [Attr.text "error" Fault.undefinedReference.message, Attr.text "cause" ref.text,
        Attr.text "position" u.position.text, Attr.text "directive" u.directive,
        Attr.text "kind" ref.kind.text, Attr.text "name" ref.name, guardAttr (before ++ [last])] ++ more := by
  have htrail := hb.trail
  have hreached := hb.reached .alone
  have halone := hb.guard_eq
  have hd : r.find? p.ref = none := by simpa [hc] using hb.cause
  obtain ⟨cause, guard, ref, source⟩ := p
  obtain rfl : cause = .undefined := hc
  cases hreached with
  | alone =>
    obtain rfl : ref = a := by simpa using halone
    exact absurd ha (by rw [hd]; exact Bool.false_ne_true)
  | @used before last u _ hu =>
    simp only [Problem.stop, Web.undefinedStop] at hf
    split at hf
    · cases hf
    · obtain rfl := Stop.failed.inj hf
      have hne : before ++ [last] ≠ [] := by simp
      obtain ⟨more, hmore⟩ := attrs_undefinedReference (hr.of_uses hu) ref hne _ _
      exact ⟨_, _, _, _, more, htrail, hu, hd, hmore⟩

/-- A reference that is too deep is reported with a trail of the depth that is allowed. -/
theorem Blames.reports_depth (hc : p.cause = .depth) : ∃ path, r.Trail path ∧ path.length = maxDepth.toNat ∧
    ((path = [] ∧ f.attrs = [Attr.text "error" Fault.maxDepthExceeded.message, Attr.int "max_depth" maxDepth,
        guardAttr []]) ∨
      ∃ before last u ref, path = before ++ [last] ∧ r.Uses last u ref ∧ (r.find? ref).isSome ∧ ref ∉ path ∧
        f.attrs = [Attr.text "error" Fault.maxDepthExceeded.message, Attr.text "position" u.position.text,
          Attr.text "directive" u.directive, Attr.int "max_depth" maxDepth, guardAttr path]) := by
  have htrail := hb.trail
  have hreached := hb.reached .alone
  have hlength := hb.guard_length hc
  obtain ⟨hm, hd, -⟩ : p.ref ∉ p.guard ∧ (r.find? p.ref).isSome ∧ maxDepth ≤ p.guard.length := by
    simpa [hc] using hb.cause
  obtain ⟨cause, guard, ref, source⟩ := p
  obtain rfl : cause = .depth := hc
  obtain rfl := Stop.failed.inj hf
  refine ⟨guard, htrail, hlength, ?_⟩
  cases hreached with
  | alone => exact Or.inl ⟨rfl, attrs_own .maxDepthExceeded _ _⟩
  | used hu => exact Or.inr ⟨_, _, _, _, rfl, hu, hd, hm, attrs_maxDepthExceeded (hr.of_uses hu) _ _⟩

end Reports

namespace Web

/-- What stops an expansion that is not cancelled is a problem with one of the names. -/
theorem Fresh.problem {w : Web} (h : w.Fresh) {settings : Settings} {stop : Stop}
    (hs : (w.expandAll settings none).2 = some stop) :
    ∃ a p, (w.repository.find? a).isSome ∧ Blames w.repository settings.maxDepth [] a none p ∧
      stop = p.stop w.repository settings.maxDepth := by
  rcases (expandAll_spec settings none h.expanded h.sound.guard).error stop hs with ⟨_, hn⟩ | ⟨p, hp, hstop⟩
  · exact absurd rfl hn
  · obtain ⟨a, ha, hb⟩ := hp.exists_mem
    exact ⟨a, p, (Repository.mem_refs_iff _ a).mp ha, hb, hstop⟩

/-- **What failures of expansion tell is true.** Documents were read, and their expansion fails. The references that are
said to be expanded are a trail in what was read: different defined references, of which each mentions the next one.

* A cycle is a trail with one of its references once more, which a use of the last one names; the failure says where
  this use stands, and what it is.
* An undefined reference is not defined, and a use of the last reference of the trail names it.
* Too many references are nested where the trail has as many as are allowed, and none if the number is negative. If
  there are any, a use of the last one names a further reference, which is defined. -/
theorem expandAll_reports (settings : Settings) (readings : List Reading) {f : Failure}
    (h : ((read settings readings .empty).expandAll settings none).2 = some (.failed f)) :
    let r := (read settings readings .empty).repository
    (f.hasFault .referenceCycle → ∃ before last u ref,
      r.Trail (before ++ [last]) ∧ r.Uses last u ref ∧ ref ∈ before ++ [last] ∧
        f.attrs = [Attr.text "error" Fault.referenceCycle.message,
          Attr.text "cause" (chainText ((before ++ [last] ++ [ref]).map Ref.text)),
          Attr.text "position" u.position.text, Attr.text "directive" u.directive, guardAttr (before ++ [last])]) ∧
    (f.hasFault .undefinedReference → ∃ before last u ref more,
      r.Trail (before ++ [last]) ∧ r.Uses last u ref ∧ r.find? ref = none ∧
        f.attrs = [Attr.text "error" Fault.undefinedReference.message, Attr.text "cause" ref.text,
          Attr.text "position" u.position.text, Attr.text "directive" u.directive,
          Attr.text "kind" ref.kind.text, Attr.text "name" ref.name, guardAttr (before ++ [last])] ++ more) ∧
    (f.hasFault .maxDepthExceeded → ∃ path, r.Trail path ∧ path.length = settings.maxDepth.toNat ∧
      ((path = [] ∧ f.attrs = [Attr.text "error" Fault.maxDepthExceeded.message,
          Attr.int "max_depth" settings.maxDepth, guardAttr []]) ∨
        ∃ before last u ref, path = before ++ [last] ∧ r.Uses last u ref ∧ (r.find? ref).isSome ∧ ref ∉ path ∧
          f.attrs = [Attr.text "error" Fault.maxDepthExceeded.message, Attr.text "position" u.position.text,
            Attr.text "directive" u.directive, Attr.int "max_depth" settings.maxDepth, guardAttr path])) := by
  intro r
  have hplaced : r.Placed := read_placed settings readings
  obtain ⟨a, p, ha, hb, hstop⟩ := (read_fresh settings readings).problem h
  have hcause (c : Cause) (hf : f.hasFault c.fault) : p.cause = c :=
    (Cause.fault_inj.mp ((Problem.hasFault_iff hstop.symm _).mp hf)).symm
  exact ⟨fun hf => hb.reports_cycle hplaced hstop.symm (hcause .cycle hf),
    fun hf => hb.reports_undefined hplaced hstop.symm ha (hcause .undefined hf),
    fun hf => hb.reports_depth hplaced hstop.symm (hcause .depth hf)⟩

/-- A document in which a stream uses the chunk that uses it. -/
def knotted : List Reading :=
  [.parse (.ofList []) true "f" { text :=
    "=begin litweb\n=begin_chunk a\n=use_chunk b\n=end_chunk a\n=begin_chunk b\n=use_stream s\n=end_chunk b\n" ++
    "=begin_stream s\n=use_chunk b\n=end_stream s\n" }]

/-- Its expansion fails with a cycle, along a trail of what was read; if only two references may be nested, it fails at
the end of a trail of two. -/
theorem expandAll_reports_knotted :
    let shallow : Settings := { Settings.standard with maxDepth := 2 }
    let w := read .standard knotted .empty
    let v := read shallow knotted .empty
    (∃ f, (w.expandAll .standard none).2 = some (.failed f) ∧ f.hasFault .referenceCycle ∧
      ∃ before last u ref, w.repository.Trail (before ++ [last]) ∧ w.repository.Uses last u ref ∧
        ref ∈ before ++ [last]) ∧
    ∃ f, (v.expandAll shallow none).2 = some (.failed f) ∧ f.hasFault .maxDepthExceeded ∧
      ∃ path, v.repository.Trail path ∧ path.length = 2 := by
  intro shallow w v
  obtain ⟨f, hstop, hf⟩ := eq_failed_of_hasFailedWith
    (show hasFailedWith .referenceCycle (w.expandAll .standard none).2 by decide +kernel)
  obtain ⟨g, hstop', hg⟩ := eq_failed_of_hasFailedWith
    (show hasFailedWith .maxDepthExceeded (v.expandAll shallow none).2 by decide +kernel)
  obtain ⟨hcycle, -, -⟩ := expandAll_reports .standard knotted hstop
  obtain ⟨before, last, u, ref, htrail, hu, hm, -⟩ := hcycle hf
  obtain ⟨-, -, hdepth⟩ := expandAll_reports shallow knotted hstop'
  obtain ⟨path, hpath, hlength, -⟩ := hdepth hg
  exact ⟨⟨f, hstop, hf, before, last, u, ref, htrail, hu, hm⟩, g, hstop', hg, path, hpath, hlength⟩

end Web

end Literate
