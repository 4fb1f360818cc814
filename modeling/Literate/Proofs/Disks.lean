import Literate.Disk
import Mathlib.Logic.Basic

/-!
# Disks on which files are written

What is written on a disk is put in place of the text of a file, or where nothing stood. Nothing else ever changes there:
folders, links, further names and devices stay as they are. Such a disk *grows* (`Disk.Grows`).

A path that leads to a file leads to the same file when the disk has grown (`Grows.resolve`), through whatever links and
further names, and a path to a device has always led there (`Grows.resolve_back`). So what has been written under a path
is found under it again (`Disk.locate_of_write`).
-/

namespace Literate

open Text

theorem Text.pieces_ne_nil (sep : UInt8) (t : Text) : pieces sep t ≠ [] := by
  unfold pieces
  cases t with
  | nil => exact List.cons_ne_nil _ _
  | cons b t =>
    rw [List.foldr_cons]
    unfold pushPiece
    split
    · exact List.cons_ne_nil _ _
    · split <;> exact List.cons_ne_nil _ _

/-! ## What becomes of what stands somewhere -/

namespace Node

/-- What stands somewhere after files have been written: what stood there before, or a file in place of a file or of
nothing. -/
inductive Becomes : Option Node → Option Node → Prop
  | same (n : Option Node) : Becomes n n
  | filled {n : Option Node} (text : Text) : isFillable n = true → Becomes n (some (.file text))

/-- Whether a path goes on that has come to what stands somewhere. -/
def goesOn : Option Node → Bool
  | some (.link _) => true
  | some (.twin _) => true
  | _ => false

namespace Becomes

variable {m n p : Option Node}

theorem trans (h : Becomes m n) (h' : Becomes n p) : Becomes m p := by
  cases h' with
  | same => exact h
  | filled text hn =>
    cases h with
    | same => exact .filled text hn
    | filled _ hm => exact .filled text hm

theorem isFillable_eq (h : Becomes m n) : isFillable n = isFillable m := by
  cases h with
  | same => rfl
  | filled _ hm => exact hm.symm

/-- What no text can be put in place of has been there before. -/
theorem eq_of_not_isFillable (h : Becomes m n) (hn : isFillable n = false) : n = m := by
  cases h with
  | same => rfl
  | filled => exact nomatch hn

theorem isSome (h : Becomes m n) (hm : m.isSome = true) : n.isSome = true := by
  cases h with
  | same => exact hm
  | filled => rfl

end Becomes

end Node

namespace Disk

/-! ## What is put somewhere -/

section Put

variable (d : Disk) (l : Location)

theorem lookup_put_of_ne {nodes : List (Location × Node)} {l k : Location} (h : k ≠ l) (n : Node) :
    (nodes.map fun e => if e.1 = l then (l, n) else e).lookup k = nodes.lookup k := by
  induction nodes with
  | nil => rfl
  | cons e nodes ih =>
    obtain ⟨a, m⟩ := e
    rw [List.map_cons]
    by_cases ha : a = l
    · rw [if_pos ha, ha, List.lookup_cons, List.lookup_cons, ih]
      rw [beq_false_of_ne h]
    · rw [if_neg ha, List.lookup_cons, List.lookup_cons, ih]

theorem lookup_put_self {nodes : List (Location × Node)} {l : Location} (h : nodes.any (·.1 = l)) (n : Node) :
    (nodes.map fun e => if e.1 = l then (l, n) else e).lookup l = some n := by
  induction nodes with
  | nil => exact nomatch h
  | cons e nodes ih =>
    obtain ⟨k, m⟩ := e
    rw [List.map_cons]
    by_cases hk : k = l
    · rw [if_pos hk, List.lookup_cons_self]
    · rw [if_neg hk, List.lookup_cons, beq_false_of_ne (Ne.symm hk)]
      exact ih (by simpa [hk] using h)

/-- The node that a disk has of its own at a location after one is put there. -/
theorem lookup_put (n : Node) (k : Location) :
    (d.put l n).nodes.lookup k = if k = l then some n else d.nodes.lookup k := by
  unfold put
  split
  · rename_i hany
    split
    · rename_i hk
      rw [hk]
      exact lookup_put_self hany n
    · exact lookup_put_of_ne ‹_› n
  · rename_i hnone
    rw [List.lookup_append, List.lookup_cons, List.lookup_nil]
    by_cases hk : k = l
    · have hlookup : d.nodes.lookup l = none := List.lookup_eq_none_iff.mpr fun e he => by
        rw [bne_iff_ne]
        exact fun hl => hnone (List.any_eq_true.mpr ⟨e, he, decide_eq_true hl.symm⟩)
      rw [if_pos hk, hk, hlookup, beq_self_eq_true]
      rfl
    · rw [if_neg hk, beq_false_of_ne hk]
      exact Option.or_none

/-- What stands at a location of every disk is neither a file nor missing. -/
theorem fixed?_eq_none {n : Option Node} (h : Node.isFillable ((fixed? l).or n) = true) : fixed? l = none := by
  unfold fixed? at h ⊢
  cases hdevice : devices.lookup l with
  | some v => rw [hdevice] at h; exact nomatch h
  | none =>
    rw [hdevice] at h
    dsimp only at h ⊢
    by_cases hfolder : l = [] ∨ l = null.dropLast
    · rw [if_pos hfolder] at h
      exact nomatch h
    · exact if_neg hfolder

/-- What stands where after a text is written to a file. -/
theorem find?_fill (text : Text) (k : Location) :
    (d.fill l text).find? k =
      if k = l ∧ Node.isFillable (d.find? l) = true then some (.file text) else d.find? k := by
  unfold fill
  by_cases hl : Node.isFillable (d.find? l) = true
  · rw [if_pos hl]
    show (fixed? k).or ((d.put l (.file text)).nodes.lookup k) = _
    rw [lookup_put]
    by_cases hk : k = l
    · rw [if_pos hk, if_pos ⟨hk, hl⟩, hk, fixed?_eq_none l hl]
      rfl
    · rw [if_neg hk, if_neg fun h => hk h.1]
      rfl
  · rw [if_neg hl, if_neg fun h => hl h.2]

@[simp] theorem fill_here (text : Text) : (d.fill l text).here = d.here := by
  unfold fill put
  split
  · split <;> rfl
  · rfl

@[simp] theorem fill_saved (text : Text) : (d.fill l text).saved = d.saved := by
  unfold fill put
  split
  · split <;> rfl
  · rfl

@[simp] theorem fill_sealed (text : Text) : (d.fill l text).sealed = d.sealed := by
  unfold fill put
  split
  · split <;> rfl
  · rfl

end Put

/-! ## Disks that grow -/

/-- A disk after files have been written on it. -/
structure Grows (d e : Disk) : Prop where
  here : e.here = d.here
  sealed : e.sealed = d.sealed
  nodes : ∀ l, Node.Becomes (d.find? l) (e.find? l)

namespace Grows

variable {d e f : Disk}

theorem refl (d : Disk) : d.Grows d := ⟨rfl, rfl, fun _ => .same _⟩

theorem trans (h : d.Grows e) (h' : e.Grows f) : d.Grows f :=
  ⟨h'.here.trans h.here, h'.sealed.trans h.sealed, fun l => (h.nodes l).trans (h'.nodes l)⟩

theorem fill (d : Disk) (l : Location) (text : Text) : d.Grows (d.fill l text) := by
  refine ⟨fill_here d l text, fill_sealed d l text, fun k => ?_⟩
  rw [find?_fill]
  split
  · rename_i hk
    exact hk.1 ▸ .filled text hk.2
  · exact .same _

/-- Texts are written to one file on both disks. -/
theorem fill_fill (h : d.Grows e) (l : Location) (t u : Text) : (d.fill l t).Grows (e.fill l u) := by
  refine ⟨by rw [fill_here, fill_here, h.here], by rw [fill_sealed, fill_sealed, h.sealed], fun k => ?_⟩
  rw [find?_fill, find?_fill, (h.nodes l).isFillable_eq]
  split
  · exact .filled u rfl
  · exact h.nodes k

/-- What has been written so far makes no difference. -/
theorem modify (h : d.Grows e) (saved : List (Location × Text)) : d.Grows { e with saved } := ⟨h.here, h.sealed, h.nodes⟩

variable {new : Bool} {l k : Location} {names : List Text}

theorem isFile (h : d.Grows e) (hl : d.isFile l = true) : e.isFile l = true := by
  have hn := h.nodes l
  unfold Disk.isFile at hl ⊢
  generalize d.find? l = m at hn hl
  generalize e.find? l = n at hn
  cases hn with
  | same => exact hl
  | filled => rfl

/-- The folder that a path comes to is the same one on a disk that has grown. -/
theorem find?_eq_of_not_isFillable (h : d.Grows e) (hl : Node.isFillable (d.find? l) = false) : e.find? l = d.find? l :=
  (h.nodes l).eq_of_not_isFillable ((h.nodes l).isFillable_eq.trans hl)

end Grows

/-! ## Paths -/

section Paths

variable {d e : Disk} {new : Bool} {onLink onLink' : Location → List Text → Except Trouble Location}
  {l k : Location} {name : Text} {names : List Text}

/-- A path that leads somewhere goes on from a folder, to a link or to what its next name stands for. -/
theorem followWith_cons_eq_ok_iff {rest : List Text} : d.followWith new onLink l (name :: rest) = .ok k ↔
    d.find? l = some .folder ∧ ¬(new = true ∧ rest ≠ [] ∧ rest.all (· = []) = true) ∧
      ((∃ path, d.turn l name = .ok (.link path) ∧
          onLink (startFrom l path) (pieces Path.separator path ++ rest) = .ok k) ∨
        ∃ next, d.turn l name = .ok (.there next) ∧ d.followWith new onLink next rest = .ok k) := by
  rw [followWith]
  cases d.find? l with
  | none => simp
  | some n =>
    cases n with
    | folder =>
      simp only [true_and]
      split
      · rename_i hends
        simp [hends]
      · rename_i hends
        cases d.turn l name with
        | error t => simp
        | ok turn =>
          cases turn with
          | there next => simp only [hends, not_false_eq_true, Except.ok.injEq, Turn.there.injEq, reduceCtorEq, false_and,
              exists_false, false_or, true_and, exists_eq_left']
          | link path => simp only [hends, not_false_eq_true, Except.ok.injEq, Turn.link.injEq, reduceCtorEq, false_and,
              exists_false, or_false, true_and, exists_eq_left']
    | _ => simp

theorem followWith_nil_eq_ok_iff :
    d.followWith new onLink l [] = .ok k ↔ l = k ∧ (new = true ∨ (d.find? k).isSome = true) := by
  rw [followWith]
  split
  · rename_i h
    rw [Except.ok.injEq]
    exact ⟨fun hk => ⟨hk, hk ▸ h⟩, And.left⟩
  · rename_i h
    exact ⟨fun hk => (nomatch hk), fun ⟨hk, hs⟩ => absurd (hk ▸ hs) h⟩

/-- A path stays at a file, and where there is none yet. -/
theorem arrive_of_isFillable (hl : Node.isFillable (d.find? l) = true) : d.arrive l = .ok (.there l) := by
  unfold arrive
  match d.find? l, hl with
  | none, _ => rfl
  | some (.file _), _ => rfl

namespace Grows

variable (h : d.Grows e)
include h

theorem arrive {t : Turn} (ht : d.arrive l = .ok t) : e.arrive l = .ok t := by
  cases hl : Node.isFillable (d.find? l) with
  | true => exact (arrive_of_isFillable ((h.nodes l).isFillable_eq.trans hl)).trans ((arrive_of_isFillable hl).symm.trans ht)
  | false =>
    have hn := h.find?_eq_of_not_isFillable hl
    unfold Disk.arrive at ht ⊢
    rw [hn]
    generalize d.find? l = n at ht ⊢
    match n, ht with
    | some (.twin file), ht =>
      dsimp only at ht ⊢
      split at ht
      · rw [if_pos (h.isFile ‹_›)]
        exact ht
      · exact nomatch ht
    | some (.link _), ht | some .folder, ht | some (.device _), ht | some (.file _), ht | none, ht => exact ht

/-- A name leads to the same location when the disk has grown. -/
theorem turn {t : Turn} (ht : d.turn l name = .ok t) : e.turn l name = .ok t := by
  unfold Disk.turn at ht ⊢
  generalize enter l name = next at ht ⊢
  cases next with
  | error _ => exact nomatch ht
  | ok next => exact h.arrive ht

/-- So does a path. -/
theorem followWith (hlink : ∀ l names k, onLink l names = .ok k → onLink' l names = .ok k)
    (hd : d.followWith new onLink l names = .ok k) : e.followWith new onLink' l names = .ok k := by
  induction names generalizing l with
  | nil =>
    obtain ⟨rfl, hk⟩ := followWith_nil_eq_ok_iff.mp hd
    exact followWith_nil_eq_ok_iff.mpr ⟨rfl, hk.imp id (h.nodes l).isSome⟩
  | cons name rest ih =>
    obtain ⟨hl, hends, hgo⟩ := followWith_cons_eq_ok_iff.mp hd
    refine followWith_cons_eq_ok_iff.mpr ⟨(h.find?_eq_of_not_isFillable (by rw [hl]; rfl)).trans hl, hends, ?_⟩
    obtain ⟨path, ht, hgo⟩ | ⟨next, ht, hgo⟩ := hgo
    · exact .inl ⟨path, h.turn ht, hlink _ _ _ hgo⟩
    · exact .inr ⟨next, h.turn ht, ih hgo⟩

theorem follow {links : Nat} (hd : d.follow new links l names = .ok k) : e.follow new links l names = .ok k := by
  induction links generalizing l names k with
  | zero => exact h.followWith (fun _ _ _ hk => hk) hd
  | succ links ih => exact h.followWith (fun _ _ _ hk => ih hk) hd

/-- **Paths last**: what leads to a location leads there when the disk has grown. -/
theorem resolve {path : Text} (hd : d.resolve new path = .ok l) : e.resolve new path = .ok l := by
  unfold Disk.resolve at hd ⊢
  rw [h.here]
  split at hd
  · exact nomatch hd
  · exact h.follow hd

end Grows

/-! ### The ends of paths -/

theorem goesOn_of_turn {next : Location} (ht : d.turn l name = .ok (.there next)) : Node.goesOn (d.find? next) = false := by
  unfold turn at ht
  generalize enter l name = there at ht
  cases there with
  | error _ => exact nomatch ht
  | ok there =>
    replace ht : d.arrive there = .ok (.there next) := ht
    unfold arrive at ht
    split at ht
    · exact nomatch ht
    · split at ht
      · rename_i hfile
        obtain rfl := Turn.there.inj (Except.ok.inj ht)
        unfold isFile at hfile
        split at hfile
        · rename_i hn
          rw [hn]
          rfl
        · rename_i hn
          rw [hn]
          rfl
        · exact nomatch hfile
      · exact nomatch ht
    · rename_i hlink htwin
      obtain rfl := Turn.there.inj (Except.ok.inj ht)
      unfold Node.goesOn
      split
      · exact (hlink _ ‹_›).elim
      · exact (htwin _ ‹_›).elim
      · rfl

/-- A path ends neither at a link nor at a further name. -/
theorem followWith_end
    (hlink : ∀ l names, Node.goesOn (d.find? l) = false → onLink l names = .ok k → Node.goesOn (d.find? k) = false)
    (hl : names = [] → Node.goesOn (d.find? l) = false) (hd : d.followWith new onLink l names = .ok k) :
    Node.goesOn (d.find? k) = false := by
  induction names generalizing l with
  | nil => exact (followWith_nil_eq_ok_iff.mp hd).1 ▸ hl rfl
  | cons name rest ih =>
    obtain ⟨hfolder, _, ⟨path, _, hgo⟩ | ⟨next, ht, hgo⟩⟩ := followWith_cons_eq_ok_iff.mp hd
    · refine hlink _ _ ?_ hgo
      unfold startFrom
      split
      · rfl
      · rw [hfolder]
        rfl
    · exact ih (fun _ => goesOn_of_turn ht) hgo

theorem follow_end {links : Nat} (hl : names = [] → Node.goesOn (d.find? l) = false)
    (hd : d.follow new links l names = .ok k) : Node.goesOn (d.find? k) = false := by
  induction links generalizing l names with
  | zero => exact followWith_end (fun _ _ _ (hk : Except.error _ = .ok k) => nomatch hk) hl hd
  | succ links ih => exact followWith_end (fun _ _ hl hk => ih (fun _ => hl) hk) hl hd

/-! ### Paths back in time -/

namespace Grows

variable (h : d.Grows e)
include h

theorem arrive_back {t : Turn} (ht : e.arrive l = .ok t) :
    d.arrive l = .ok t ∨ ∃ file, t = .there file ∧ e.isFile file = true ∧ d.isFile file = false := by
  cases hl : Node.isFillable (e.find? l) with
  | true =>
    have hd := (h.nodes l).isFillable_eq.symm.trans hl
    exact .inl ((arrive_of_isFillable hd).trans ((arrive_of_isFillable hl).symm.trans ht))
  | false =>
    have hn := (h.nodes l).eq_of_not_isFillable hl
    unfold Disk.arrive at ht ⊢
    rw [← hn]
    generalize e.find? l = n at ht ⊢
    match n, ht with
    | some (.twin file), ht =>
      dsimp only at ht ⊢
      split at ht
      · cases hd : d.isFile file with
        | true => exact .inl ht
        | false => exact .inr ⟨file, (Except.ok.inj ht).symm, ‹_›, hd⟩
      · exact nomatch ht
    | some (.link _), ht | some .folder, ht | some (.device _), ht | some (.file _), ht | none, ht => exact .inl ht

/-- A name has led to the same location before, unless it is a further name of a file that was not there. -/
theorem turn_back {t : Turn} (ht : e.turn l name = .ok t) :
    d.turn l name = .ok t ∨ ∃ file, t = .there file ∧ e.isFile file = true ∧ d.isFile file = false := by
  unfold Disk.turn at ht ⊢
  generalize enter l name = next at ht ⊢
  cases next with
  | error _ => exact nomatch ht
  | ok next => exact h.arrive_back ht

/-- A path that leads to something else than a file has always led there. -/
theorem followWith_back (hk : Node.isFillable (e.find? k) = false)
    (hlink : ∀ l names, onLink' l names = .ok k → onLink l names = .ok k)
    (he : e.followWith new onLink' l names = .ok k) : d.followWith new onLink l names = .ok k := by
  have hback := (h.nodes k).eq_of_not_isFillable hk
  induction names generalizing l with
  | nil =>
    obtain ⟨hl, hs⟩ := followWith_nil_eq_ok_iff.mp he
    exact followWith_nil_eq_ok_iff.mpr ⟨hl, hback ▸ hs⟩
  | cons name rest ih =>
    obtain ⟨hl, hends, hgo⟩ := followWith_cons_eq_ok_iff.mp he
    have hfolder : d.find? l = some .folder := ((h.nodes l).eq_of_not_isFillable (by rw [hl]; rfl)).symm.trans hl
    refine followWith_cons_eq_ok_iff.mpr ⟨hfolder, hends, ?_⟩
    obtain ⟨path, ht, hgo⟩ | ⟨next, ht, hgo⟩ := hgo
    · obtain hd | ⟨_, hfile, _⟩ := h.turn_back ht
      · exact .inl ⟨path, hd, hlink _ _ hgo⟩
      · exact nomatch hfile
    · refine .inr ⟨next, (h.turn_back ht).resolve_right ?_, ih hgo⟩
      -- A file that was not there before is what the path ends at, and it is one.
      rintro ⟨_, ⟨⟩, hfile, hnone⟩
      cases rest with
      | nil =>
        obtain ⟨rfl, _⟩ := followWith_nil_eq_ok_iff.mp hgo
        unfold Disk.isFile at hfile hnone
        rw [hback] at hfile
        exact Bool.false_ne_true (hnone.symm.trans hfile)
      | cons _ _ =>
        unfold Disk.isFile at hfile
        rw [(followWith_cons_eq_ok_iff.mp hgo).1] at hfile
        exact nomatch hfile

theorem follow_back (hk : Node.isFillable (e.find? k) = false) {links : Nat}
    (he : e.follow new links l names = .ok k) : d.follow new links l names = .ok k := by
  induction links generalizing l names with
  | zero => exact h.followWith_back hk (fun _ _ hk => hk) he
  | succ links ih => exact h.followWith_back hk (fun _ _ he => ih he) he

theorem resolve_back (hk : Node.isFillable (e.find? k) = false) {path : Text} (he : e.resolve new path = .ok k) :
    d.resolve new path = .ok k := by
  unfold Disk.resolve at he ⊢
  rw [h.here] at he
  split at he
  · exact nomatch he
  · exact h.follow_back hk he

end Grows

/-! ### Paths to what is there -/

/-- A path to something new leads to what is there, if anything is. -/
theorem followWith_existing
    (hlink : ∀ l names, onLink l names = .ok k →
      onLink' l names = if (d.find? k).isSome then .ok k else .error .missing)
    (hd : d.followWith true onLink l names = .ok k) :
    d.followWith false onLink' l names = if (d.find? k).isSome then .ok k else .error .missing := by
  induction names generalizing l with
  | nil =>
    obtain ⟨rfl, _⟩ := followWith_nil_eq_ok_iff.mp hd
    rw [Disk.followWith]
    simp
  | cons name rest ih =>
    obtain ⟨hl, _, hgo⟩ := followWith_cons_eq_ok_iff.mp hd
    rw [Disk.followWith, hl]
    dsimp only
    rw [if_neg fun h => Bool.false_ne_true h.1]
    obtain ⟨path, ht, hgo⟩ | ⟨next, ht, hgo⟩ := hgo
    · rw [ht]
      exact hlink _ _ hgo
    · rw [ht]
      exact ih hgo

theorem follow_existing {links : Nat} (hd : d.follow true links l names = .ok k) :
    d.follow false links l names = if (d.find? k).isSome then .ok k else .error .missing := by
  induction links generalizing l names with
  | zero => exact followWith_existing (fun _ _ (hk : Except.error _ = .ok k) => nomatch hk) hd
  | succ links ih => exact followWith_existing (fun _ _ hk => ih hk) hd

theorem resolve_existing {path : Text} (hd : d.resolve true path = .ok k) :
    d.locate path = if (d.find? k).isSome then .ok k else .error .missing := by
  unfold locate resolve at *
  split at hd
  · exact nomatch hd
  · exact follow_existing hd

end Paths

/-! ## Files under paths -/

section Files

variable {d e : Disk} {path text : Text} {l : Location}

theorem device?_eq_some_iff {v : Device} : d.device? l = some v ↔ d.find? l = some (.device v) := by
  unfold device?
  split
  · rename_i u hu
    rw [hu, Option.some.injEq, Option.some.injEq, Node.device.injEq]
  · rename_i hnone
    exact iff_of_false (fun h => nomatch h) (hnone v)

theorem refuse_eq_ok_iff {c : Bool} {t : Trouble} {k : Location} :
    (if c then Except.error t else .ok k) = .ok l ↔ k = l ∧ c = false := by
  cases c <;> simp

theorem place_eq_ok_iff : d.place path = .ok l ↔ d.resolve true path = .ok l ∧ d.isFolder l = false := by
  unfold place
  cases d.resolve true path with
  | error t => simp
  | ok k =>
    simp only [refuse_eq_ok_iff, Except.ok.injEq]
    exact and_congr_right fun hk => by rw [hk]

theorem access_eq_ok_iff : d.access path = .ok l ↔ d.locate path = .ok l ∧ d.sealed.contains l = false := by
  unfold access
  cases d.locate path with
  | error t => simp [bind, Except.bind]
  | ok k =>
    simp only [bind, Except.bind, refuse_eq_ok_iff, Except.ok.injEq]
    exact and_congr_right fun hk => by rw [hk]

/-- A file is written at the same location when the disk has grown. -/
theorem Grows.place (h : d.Grows e) (hp : d.place path = .ok l) : e.place path = .ok l := by
  obtain ⟨hd, hl⟩ := place_eq_ok_iff.mp hp
  refine place_eq_ok_iff.mpr ⟨h.resolve hd, ?_⟩
  have hn := h.nodes l
  unfold isFolder at hl ⊢
  generalize d.find? l = m at hn hl
  generalize e.find? l = n at hn
  cases hn with
  | same => exact hl
  | filled => rfl

/-- A path that can be read without end could always be. -/
theorem Grows.isEndless_back (h : d.Grows e) (he : e.isEndless path = true) : d.isEndless path = true := by
  unfold isEndless at he ⊢
  split at he
  · rename_i k hk
    obtain ⟨hlocate, hsealed⟩ := access_eq_ok_iff.mp hk
    have hfillable : Node.isFillable (e.find? k) = false := by
      unfold device? at he
      split at he
      · rename_i v hv
        rw [hv]
        rfl
      · exact nomatch he
    have hback := (h.nodes k).eq_of_not_isFillable hfillable
    rw [access_eq_ok_iff.mpr ⟨h.resolve_back hfillable hlocate, h.sealed ▸ hsealed⟩]
    unfold device? at he ⊢
    rw [hback] at he
    exact he
  · exact nomatch he

/-- A text is written to a file, to a device, or where nothing stands. -/
theorem find?_of_place (hp : d.place path = .ok l) :
    Node.isFillable (d.find? l) = true ∨ ∃ v, d.find? l = some (.device v) := by
  obtain ⟨hd, hfolder⟩ := place_eq_ok_iff.mp hp
  have hend : Node.goesOn (d.find? l) = false := by
    unfold resolve at hd
    split at hd
    · exact nomatch hd
    · exact follow_end (fun h => absurd h (pieces_ne_nil _ _)) hd
  unfold isFolder at hfolder
  match d.find? l, hend, hfolder with
  | none, _, _ => exact .inl rfl
  | some (.file _), _, _ => exact .inl rfl
  | some (.device v), _, _ => exact .inr ⟨v, rfl⟩

/-- What a write does to a disk: it puts the text in place of that of the file, unless that is a device. -/
theorem write_eq_ok_iff : d.write path text = .ok e ↔
    ∃ l, d.place path = .ok l ∧ (∀ v, d.find? l = some (.device v) → v.takes = true) ∧
      e = { d.fill l text with saved := d.saved ++ [(l, text)] } := by
  unfold write
  cases d.place path with
  | error t => simp
  | ok l =>
    simp only [Except.ok.injEq, exists_eq_left']
    have hany : (d.device? l).any (!·.takes) = true ↔ ¬∀ v, d.find? l = some (.device v) → v.takes = true := by
      simp only [Option.any_eq_true, device?_eq_some_iff, Bool.not_eq_true', not_forall, Bool.not_eq_true, exists_prop]
    split
    · rename_i htakes
      exact iff_of_false (fun h => nomatch h) fun h => hany.mp htakes h.1
    · rename_i htakes
      rw [Except.ok.injEq, eq_comm]
      exact (and_iff_right (not_not.mp fun h => htakes (hany.mpr h))).symm

/-- A disk grows by a write. -/
theorem grows_of_write (h : d.write path text = .ok e) : d.Grows e := by
  obtain ⟨l, -, -, rfl⟩ := write_eq_ok_iff.mp h
  exact (Grows.fill d l text).modify _

/-- What was written under a path is found under it. -/
theorem locate_of_write (hp : d.place path = .ok l) (h : d.write path text = .ok e) : e.locate path = .ok l := by
  have hgrows := grows_of_write h
  have hl : (e.find? l).isSome = true := by
    obtain ⟨k, hk, -, rfl⟩ := write_eq_ok_iff.mp h
    obtain rfl := Except.ok.inj (hp.symm.trans hk)
    obtain hl | ⟨v, hv⟩ := find?_of_place hp
    · show ((d.fill l text).find? l).isSome = true
      rw [find?_fill, if_pos ⟨rfl, hl⟩]
      rfl
    · exact (hgrows.nodes l).isSome (by rw [hv]; rfl)
  rw [resolve_existing (hgrows.resolve (place_eq_ok_iff.mp hp).1), if_pos hl]

/-- A text that can be replaced is that of a file. -/
theorem find?_of_text? (hl : Node.isFillable (d.find? l) = true) (ht : d.text? l = some text) :
    d.find? l = some (.file text) := by
  unfold text? at ht
  match d.find? l, hl, ht with
  | some (.file _), _, ht => exact congrArg (some ∘ Node.file) (Option.some.inj ht)

/-- The text that is read under a path is that of the file that is written under it. -/
theorem text?_of_textUnder? (hp : d.place path = .ok l) (ht : d.textUnder? path = some text) :
    d.text? l = some text := by
  unfold textUnder? at ht
  split at ht
  · rename_i k hk
    have hlocate := (resolve_existing (place_eq_ok_iff.mp hp).1).symm.trans (access_eq_ok_iff.mp hk).1
    split at hlocate
    · exact Except.ok.inj hlocate ▸ ht
    · exact nomatch hlocate
  · exact nomatch ht

end Files

end Disk

end Literate
