import Literate.Expand

/-!
# Failures and their faults

A failure is matched by asking whether one of its layers descends from a fault, or from the sentinel of a fault. A
failure that was made from a fault (`MadeOf`), by putting something from elsewhere under it and by adding attributes,
however often, matches this fault and no other (`MadeOf.ofKind`). All failures of reading and of expansion are made so.
-/

namespace Literate

open Text Log

namespace Failure

/-! ## Matching -/

/-- A failure with one layer that descends from anything has the fault of that layer, and no other. -/
theorem hasFault_iff {f : Failure} {g : Fault} (h : f.layers.filterMap (·.lineage) = [.fault g])
    (fault : Fault) : f.hasFault fault ↔ fault = g := by
  have hmem : f.hasFault fault ↔ .fault fault ∈ f.layers.filterMap (·.lineage) := by
    unfold hasFault
    rw [List.any_eq_true, List.mem_filterMap]
    exact exists_congr fun l => and_congr_right fun _ => decide_eq_true_iff
  rw [hmem, h, List.mem_singleton, Lineage.fault.injEq]

/-- What failures that descend from a fault are matched by. The number tells it apart from layers made elsewhere. -/
def sentinel (g : Fault) (serial : Nat) : Failure := (ofFault g).wrap none serial

/-- Where no layer was made elsewhere, the sentinel of a fault matches what descends from the fault. -/
theorem isA_sentinel_iff {f : Failure} (h : ∀ l ∈ f.layers, l.serial = 0) (fault : Fault) {serial : Nat}
    (hs : serial ≠ 0) : f.isA (sentinel fault serial) ↔ f.hasFault fault := by
  have hs : (0 == serial) = false := beq_false_of_ne hs.symm
  unfold isA hasFault
  rw [List.any_eq_true, List.any_eq_true]
  refine exists_congr fun l => and_congr_right fun hl => ?_
  show ((l.serial == serial && l.isOwn == true) || (l.lineage.isSome && l.lineage == some (.fault fault))) = true ↔ _
  rw [h l hl, hs, Bool.false_and, Bool.false_or]
  cases l.lineage <;> simp

/-- A failure matches one fault, and no other: this is what it descends from, and what its sentinels say. -/
structure OfKind (f : Failure) (g : Fault) : Prop where
  hasFault : ∀ fault, f.hasFault fault ↔ fault = g
  isA : ∀ fault serial, serial ≠ 0 → (f.isA (sentinel fault serial) ↔ fault = g)

/-- A failure was made from a fault: its outermost layer descends from it, and all others are from elsewhere. -/
structure MadeOf (f : Failure) (g : Fault) : Prop where
  head : ∃ m as, f.head = .own 0 (some (.fault g)) m as
  causes : ∀ l ∈ f.causes, ∃ m, l = .foreign 0 m

namespace MadeOf

variable {f : Failure} {g : Fault}

theorem ofFault (g : Fault) : (Failure.ofFault g).MadeOf g where
  head := ⟨_, _, rfl⟩
  causes _ hl := absurd hl List.not_mem_nil

theorem wrap (h : f.MadeOf g) {cause : Option Failure} (hc : ∀ c ∈ cause, ∃ m, c = foreign m) :
    (f.wrap cause).MadeOf g where
  head := by
    obtain ⟨m, as, hf⟩ := h.head
    refine ⟨m, as, ?_⟩
    unfold Failure.wrap
    rw [hf]
  causes l hl := by
    cases cause with
    | none => exact absurd hl List.not_mem_nil
    | some c =>
      obtain ⟨m, rfl⟩ := hc c rfl
      exact ⟨m, List.mem_singleton.mp hl⟩

theorem withAttrs (h : f.MadeOf g) (attrs : List Attr) : (f.withAttrs attrs).MadeOf g where
  head := by
    obtain ⟨m, as, hf⟩ := h.head
    refine ⟨m, as ++ attrs, ?_⟩
    unfold Failure.withAttrs
    rw [hf]
  causes := h.causes

theorem located (h : f.MadeOf g) (position : Position) (directive : Text) : (f.located position directive).MadeOf g :=
  h.withAttrs _

theorem locatedUse (h : f.MadeOf g) (source : Option Use) : (f.locatedUse source).MadeOf g := by
  cases source with
  | none => exact h
  | some u => exact h.located u.position u.directive

/-- The layers of a failure that was made from a fault descend from nothing else. -/
theorem lineages (h : f.MadeOf g) : f.layers.filterMap (·.lineage) = [.fault g] := by
  obtain ⟨m, as, hf⟩ := h.head
  have hcauses : f.causes.filterMap (·.lineage) = [] := by
    rw [List.filterMap_eq_nil_iff]
    intro l hl
    obtain ⟨m, rfl⟩ := h.causes l hl
    rfl
  unfold layers
  rw [hf, List.filterMap_cons_some (f := Layer.lineage) (b := .fault g) rfl, hcauses]

theorem serial_eq_zero (h : f.MadeOf g) : ∀ l ∈ f.layers, l.serial = 0 := by
  intro l hl
  rcases List.mem_cons.mp hl with rfl | hl
  · obtain ⟨m, as, hf⟩ := h.head
    rw [hf]
    rfl
  · obtain ⟨m, rfl⟩ := h.causes l hl
    rfl

/-- **What was made from a fault matches it only.** -/
theorem ofKind (h : f.MadeOf g) : f.OfKind g where
  hasFault := hasFault_iff h.lineages
  isA fault _ hs := (isA_sentinel_iff h.serial_eq_zero fault hs).trans (hasFault_iff h.lineages fault)

end MadeOf

/-! ## Making failures -/

theorem mem_ofPosition {p : Position} : ∀ c ∈ ofPosition p, ∃ m, c = foreign m := by
  intro c hc
  unfold ofPosition at hc
  split at hc
  · exact nomatch hc
  · exact ⟨_, (Option.some.inj hc).symm⟩

theorem mem_map_foreign (cause : Option Text) : ∀ c ∈ cause.map foreign, ∃ m, c = foreign m := by
  cases cause with
  | none => exact fun _ hc => nomatch hc
  | some m => exact fun c hc => ⟨m, (Option.some.inj hc).symm⟩

theorem delimiter_madeOf (fault : Fault) (l : LogicalLine) (chain : List Text) :
    (delimiter fault l chain).MadeOf fault :=
  (((MadeOf.ofFault fault).wrap mem_ofPosition).located l.position l.body).withAttrs _

theorem unreadableInclude_madeOf (l : LogicalLine) (target : Text) (cause : Option Text) :
    (unreadableInclude l target cause).MadeOf .unreadableInclude :=
  (((MadeOf.ofFault _).wrap (mem_map_foreign cause)).located l.position l.body).withAttrs _

theorem duplicateInclude_madeOf (l : LogicalLine) (path : Text) (chain : List Text) :
    (duplicateInclude l path chain).MadeOf .duplicateInclude :=
  (((MadeOf.ofFault _).wrap mem_ofPosition).located l.position l.body).withAttrs _

theorem unreadableInput_madeOf (file cause : Text) : (unreadableInput file cause).MadeOf .unreadableInput :=
  ((MadeOf.ofFault _).wrap (mem_map_foreign (some cause))).withAttrs _

theorem referenceCycle_madeOf (guard : List Ref) (ref : Ref) (source : Option Use) :
    (referenceCycle guard ref source).MadeOf .referenceCycle :=
  (((MadeOf.ofFault _).wrap (mem_map_foreign (some _))).locatedUse source).withAttrs _

theorem maxDepthExceeded_madeOf (maxDepth : Int) (guard : List Ref) (source : Option Use) :
    (maxDepthExceeded maxDepth guard source).MadeOf .maxDepthExceeded :=
  ((MadeOf.ofFault _).locatedUse source).withAttrs _

theorem undefinedReference_madeOf (ref : Ref) (source : Option Use) (guard : List Ref) (suggested : List Text)
    (other : Option Ref) : (undefinedReference ref source guard suggested other).MadeOf .undefinedReference :=
  (((MadeOf.ofFault _).wrap (mem_map_foreign (some ref.text))).locatedUse source).withAttrs _

end Failure

/-! ## Stops -/

/-- A call stops with a failure that matches one of these faults, and no other fault. -/
def Stop.OfKinds (faults : List Fault) (stop : Stop) : Prop := ∀ f, stop = .failed f → ∃ g ∈ faults, f.OfKind g

namespace Stop.OfKinds

variable {faults : List Fault}

theorem failed {f : Failure} {g : Fault} (h : f.MadeOf g) (hg : g ∈ faults) : OfKinds faults (.failed f) := by
  rintro _ ⟨⟩
  exact ⟨g, hg, h.ofKind⟩

theorem canceled : OfKinds faults .canceled := fun _ hf => nomatch hf

theorem crashed : OfKinds faults .crashed := fun _ hf => nomatch hf

end Stop.OfKinds

theorem Web.undefinedStop_ofKinds (w : Web) (ref : Ref) (source : Option Use) :
    (w.undefinedStop ref source).OfKinds [.undefinedReference] := by
  unfold undefinedStop
  split
  · exact .crashed
  · exact .failed (Failure.undefinedReference_madeOf ..) List.mem_cons_self

end Literate
