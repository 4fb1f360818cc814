import Literate.Proofs.Meaning
import Literate.Proofs.Representation
import Literate.Summary
import Mathlib.Algebra.Ring.Nat

/-!
# What a summary counts

A summary has one entry for each name that is defined, with the lines and the uses of its entity. What the entities mean
is counted the same way (`Flattens.length_eq`): pieces mean the lines among them, and for each mention as many lines as
the name means that is mentioned.

The main statement is `summary_adds_up`: when a web is expanded, every name has the lines that it had before, and those
of each of its uses, as often as it used them.
-/

namespace Literate

/-! ## The entry of one entity -/

/-- The use that an element is. -/
def Element.use? : Element → Option Use
  | line _ => none
  | use u => some u

namespace Entity

/-- The uses of an entity, in order. -/
def uses (e : Entity) : List Use := e.elements.toList.filterMap Element.use?

variable (ref : Ref) (e : Entity)

/-- An element is a line or a use. -/
theorem elements_entry : (e.entry ref).elements = (e.entry ref).lines + e.uses.length := by
  simp only [entry, uses, ← Array.length_toList]
  induction e.elements.toList with
  | nil => rfl
  | cons x xs ih =>
    rw [List.length_cons, ih]
    cases x with
    | line i => rw [List.filter_cons_of_pos rfl, List.filterMap_cons_none rfl, List.length_cons]; omega
    | use u =>
      rw [List.filter_cons_of_neg Bool.noConfusion, List.filterMap_cons_some (b := u) (by rfl), List.length_cons]
      omega

theorem uses_entry : (e.entry ref).uses = e.uses.flatMap Use.refs := by
  simp only [entry, uses]
  induction e.elements.toList with
  | nil => rfl
  | cons x xs ih =>
    cases x with
    | line i => exact ih
    | use u => exact congrArg (u.refs ++ ·) ih

/-- The entry of an entity that holds lines only. -/
theorem entry_lines (is : List Nat) (resolved : Bool) :
    entry ref ⟨(is.map .line).toArray, resolved⟩ = ⟨ref, is.length, is.length, []⟩ := by
  have hlines : (is.map Element.line).filter Element.isLine = is.map .line :=
    List.filter_eq_self.mpr fun x hx => by
      obtain ⟨i, _, rfl⟩ := List.mem_map.mp hx
      rfl
  have huses : (is.map Element.line).flatMap Element.refs = [] :=
    List.flatMap_eq_nil_iff.mpr fun x hx => by
      obtain ⟨i, _, rfl⟩ := List.mem_map.mp hx
      rfl
  simp [entry, hlines, huses]

end Entity

/-! ## Pieces -/

/-- The reference that a piece mentions. -/
def Piece.ref? : Piece → Option Ref
  | line _ => none
  | mention ref _ => some ref

/-- Whether a piece is a line. -/
def Piece.isLine (p : Piece) : Bool := p.ref?.isNone

namespace Entity

variable (ref : Ref) (e : Entity)

theorem filterMap_pieces : e.pieces.filterMap Piece.ref? = (e.entry ref).uses := by
  unfold pieces entry
  induction e.elements.toList with
  | nil => rfl
  | cons x xs ih =>
    have hx : x.pieces.filterMap Piece.ref? = x.refs := by
      cases x with
      | line i => rfl
      | use u => simp [Element.pieces, Element.refs, Piece.ref?, Function.comp_def]
    simp only [piecesOf, List.flatMap_cons, List.filterMap_append] at ih ⊢
    rw [hx, ih]

theorem countP_pieces : e.pieces.countP Piece.isLine = (e.entry ref).lines := by
  unfold pieces entry
  induction e.elements.toList with
  | nil => rfl
  | cons x xs ih =>
    simp only [piecesOf, List.flatMap_cons, List.countP_append] at ih ⊢
    cases x with
    | line i =>
      have hi : (Element.line i).pieces.countP Piece.isLine = 1 := rfl
      rw [hi, ih, List.filter_cons_of_pos rfl, List.length_cons, Nat.add_comm]
    | use u =>
      have hu : (Element.use u).pieces.countP Piece.isLine = 0 := List.countP_eq_zero.mpr fun p hp => by
        obtain ⟨a, _, rfl⟩ := List.mem_map.mp hp
        exact Bool.noConfusion
      rw [hu, ih, List.filter_cons_of_neg Bool.noConfusion, Nat.zero_add]

end Entity

/-- Pieces mean the lines among them, and what each mention means. -/
theorem Flattens.length_eq {r : Repository} {ps : List Piece} {is : List Nat} (h : Flattens r ps is)
    {n : Ref → Option Nat}
    (hs : ∀ ref e sub, r.find? ref = some e → Flattens r e.pieces sub → n ref = some sub.length) :
    ∃ sizes, (ps.filterMap Piece.ref?).mapM n = some sizes ∧
      is.length = ps.countP Piece.isLine + sizes.sum := by
  induction h with
  | nil => exact ⟨[], rfl, rfl⟩
  | @line i rest out _ ih =>
    obtain ⟨sizes, hsizes, hlength⟩ := ih
    refine ⟨sizes, hsizes, ?_⟩
    rw [List.length_cons, hlength, List.countP_cons_of_pos (by rfl)]
    omega
  | @mention ref u e sub rest out he hsub _ _ ih =>
    obtain ⟨sizes, hsizes, hlength⟩ := ih
    refine ⟨sub.length :: sizes, ?_, ?_⟩
    · rw [show (Piece.mention ref u :: rest).filterMap Piece.ref? = ref :: rest.filterMap Piece.ref? from rfl,
        List.mapM_cons, hs ref e sub he hsub, hsizes]
      rfl
    · rw [List.length_append, hlength, List.countP_cons_of_neg (by exact Bool.noConfusion), List.sum_cons]
      omega

/-! ## The entries of a web -/

/-- An entry stands for the name that it is found under. -/
theorem Namespace.find?_eq_some_iff {ns : Namespace} (h : ns.names.Nodup) {name : Text} {e : Entity} :
    find? ns name = some e ↔ (name, e) ∈ ns := by
  induction ns with
  | nil => simp [find?]
  | cons d ns ih =>
    obtain ⟨a, d⟩ := d
    obtain ⟨ha, hns⟩ := List.nodup_cons.mp h
    rw [find?_cons]
    by_cases hn : name = a
    · subst hn
      have hnot : (name, e) ∉ ns := fun hm => ha (List.mem_map.mpr ⟨_, hm, rfl⟩)
      simp [hnot, eq_comm]
    · simp [hn, ih hns]

/-- The lines that a summary counts for a reference. -/
def Entry.linesOf? (entries : List Entry) (ref : Ref) : Option Nat :=
  (entries.find? (·.ref = ref)).map Entry.lines

namespace Web

variable {w : Web}

/-- There is an entry for each name, streams before chunks. -/
theorem map_ref_summary (w : Web) :
    w.summary.map Entry.ref = [Kind.stream, .chunk].flatMap fun k => (w.repository.names k).map (⟨k, ·⟩) := by
  simp only [summary, Repository.names, Namespace.names, List.map_flatMap, List.map_map]
  rfl

theorem nodup_refs_summary (h : ∀ k, (w.repository.names k).Nodup) : (w.summary.map Entry.ref).Nodup := by
  have hk (k : Kind) : ((w.repository.names k).map (Ref.mk k)).Nodup :=
    List.Pairwise.map _ (fun a b hab heq => hab (Ref.mk.inj heq).2) (h k)
  rw [map_ref_summary]
  simp only [List.flatMap_cons, List.flatMap_nil, List.append_nil]
  refine List.nodup_append.mpr ⟨hk .stream, hk .chunk, fun a ha b hb => ?_⟩
  obtain ⟨m, _, rfl⟩ := List.mem_map.mp ha
  obtain ⟨n, _, rfl⟩ := List.mem_map.mp hb
  exact fun hab => Kind.noConfusion (Ref.mk.inj hab).1

theorem mem_refs_summary (w : Web) (ref : Ref) : ref ∈ w.summary.map Entry.ref ↔ w.repository.has ref := by
  rw [map_ref_summary, Repository.has_iff]
  obtain ⟨k, name⟩ := ref
  cases k <;> simp

/-- The entries are those of the defined entities. -/
theorem mem_summary_iff (h : ∀ k, (w.repository.names k).Nodup) {x : Entry} :
    x ∈ w.summary ↔ ∃ e, w.repository.find? x.ref = some e ∧ x = e.entry x.ref := by
  simp only [summary, List.mem_flatMap, List.mem_map]
  constructor
  · rintro ⟨k, _, ⟨name, e⟩, he, rfl⟩
    exact ⟨e, (Namespace.find?_eq_some_iff (h k)).mpr he, rfl⟩
  · rintro ⟨e, he, hx⟩
    refine ⟨x.ref.kind, by cases x.ref.kind <;> simp, (x.ref.name, e), ?_, hx.symm⟩
    exact (Namespace.find?_eq_some_iff (h x.ref.kind)).mp he

theorem linesOf?_summary (h : ∀ k, (w.repository.names k).Nodup) {ref : Ref} {e : Entity}
    (he : w.repository.find? ref = some e) : Entry.linesOf? w.summary ref = some (e.entry ref).lines := by
  have hfound : ∃ x, w.summary.find? (·.ref = ref) = some x := by
    rw [← Option.isSome_iff_exists, List.find?_isSome]
    exact ⟨e.entry ref, (mem_summary_iff h).mpr ⟨e, he, rfl⟩, decide_eq_true rfl⟩
  obtain ⟨x, hx⟩ := hfound
  obtain ⟨d, hd, hxd⟩ := (mem_summary_iff h).mp (List.mem_of_find?_eq_some hx)
  obtain rfl : x.ref = ref := by simpa using List.find?_some hx
  obtain rfl := Option.some.inj (hd.symm.trans he)
  rw [Entry.linesOf?, hx, Option.map_some, ← hxd]

/-! ## Expanding -/

variable {settings : Settings} {patience : Option Nat}

theorem read_wellFormed (settings : Settings) (readings : List Reading) :
    (read settings readings .empty).WellFormed := by
  have hrun : read settings readings .empty = run settings (readings.map .read) .empty := by
    rw [run, List.foldl_map]
    rfl
  rw [hrun]
  exact run_wellFormed settings _

/-- An expanded web has entries that count the lines that names mean, and nothing else. -/
theorem Fresh.mem_summary_expandAll (h : w.Fresh)
    (hn : ∀ k, ((w.expandAll settings patience).1.web.repository.names k).Nodup)
    (ho : (w.expandAll settings patience).2 = none) {y : Entry}
    (hy : y ∈ (w.expandAll settings patience).1.web.summary) : y.uses = [] ∧ y.lines = y.elements := by
  obtain ⟨d, hd, hyd⟩ := (mem_summary_iff hn).mp hy
  have hdefined : (w.repository.find? y.ref).isSome :=
    ((expandAll_spec settings patience h.expanded h.sound.guard).expanding.isSome_find? y.ref).mp (by rw [hd]; rfl)
  obtain ⟨e, he⟩ := Option.isSome_iff_exists.mp hdefined
  obtain ⟨is, _, _, hfind⟩ := h.flattened ho he
  obtain rfl := Option.some.inj (hfind.symm.trans hd)
  rw [hyd, Entity.entry_lines]
  exact ⟨rfl, rfl⟩

theorem Fresh.linesOf?_expandAll (h : w.Fresh)
    (hn : ∀ k, ((w.expandAll settings patience).1.web.repository.names k).Nodup)
    (ho : (w.expandAll settings patience).2 = none) {ref : Ref} {e : Entity} {is : List Nat}
    (he : w.repository.find? ref = some e) (his : Flattens w.repository e.pieces is) :
    Entry.linesOf? (w.expandAll settings patience).1.web.summary ref = some is.length := by
  obtain ⟨js, hjs, _, hfind⟩ := h.flattened ho he
  obtain rfl := his.unique hjs
  rw [linesOf?_summary hn hfind, Entity.entry_lines]

/-- **A summary counts exactly, and expansion adds up.** After any reading calls on an empty web, the summary has one
entry for each defined name, streams before chunks, in the order in which documents first began them; its elements are
its lines and its uses, and its references are those that the uses name. When the web is expanded, the entries are for
the same names, they have lines only, and to the lines that a name had before there are added the lines that each of the
references has now that it used. -/
theorem summary_adds_up (settings : Settings) (readings : List Reading) (patience : Option Nat) :
    let w := read settings readings .empty
    let history := Reading.history settings {} readings
    let after := (w.expandAll settings patience).1.web.summary
    (w.summary.map Entry.ref).Nodup ∧ (∀ ref, ref ∈ w.summary.map Entry.ref ↔ w.repository.has ref) ∧
    (w.summary.map Entry.ref =
      [Kind.stream, .chunk].flatMap fun k => (mentions k history).eraseDups.map (⟨k, ·⟩)) ∧
    (∀ x ∈ w.summary, ∃ e, w.repository.find? x.ref = some e ∧ x.elements = e.elements.size ∧
      x.elements = x.lines + e.uses.length ∧ x.uses = e.uses.flatMap Use.refs) ∧
    ((w.expandAll settings patience).2 = none →
      after.map Entry.ref = w.summary.map Entry.ref ∧ (∀ y ∈ after, y.uses = [] ∧ y.lines = y.elements) ∧
      ∀ x ∈ w.summary, ∃ sizes, x.uses.mapM (Entry.linesOf? after) = some sizes ∧
        Entry.linesOf? after x.ref = some (x.lines + sizes.sum)) := by
  intro w history after
  have hw : w.Fresh := read_fresh settings readings
  have hd := (read_wellFormed settings readings).distinct
  have hn := ((read_wellFormed settings readings).expandAll settings patience).distinct
  have hkept := (expandAll_spec settings patience hw.expanded hw.sound.guard).expanding.names
  obtain ⟨_, _, hnames, _⟩ := read_fan_out settings readings
  refine ⟨nodup_refs_summary hd, mem_refs_summary w, ?_, fun x hx => ?_,
    fun ho => ⟨?_, fun y hy => hw.mem_summary_expandAll hn ho hy, fun x hx => ?_⟩⟩
  · rw [map_ref_summary]
    exact List.flatMap_congr fun k _ => congrArg _ (hnames k)
  · obtain ⟨e, he, hxe⟩ := (mem_summary_iff hd).mp hx
    rw [hxe]
    exact ⟨e, he, rfl, e.elements_entry x.ref, e.uses_entry x.ref⟩
  · rw [map_ref_summary, map_ref_summary]
    exact List.flatMap_congr fun k _ => congrArg _ (hkept k)
  · obtain ⟨e, he, hxe⟩ := (mem_summary_iff hd).mp hx
    obtain ⟨is, his, _⟩ := hw.flattened ho he
    obtain ⟨sizes, hsizes, hlength⟩ := his.length_eq (n := Entry.linesOf? after) fun ref d sub hfind hsub =>
      hw.linesOf?_expandAll hn ho hfind hsub
    rw [e.filterMap_pieces x.ref, ← hxe] at hsizes
    rw [e.countP_pieces x.ref, ← hxe] at hlength
    refine ⟨sizes, hsizes, ?_⟩
    rw [hw.linesOf?_expandAll hn ho he his, hlength]

/-- A chunk that uses another one twice has its lines twice, and so has a stream that uses this chunk. -/
theorem summary_adds_up_sharing :
    let w := read .standard (sharing "=begin_chunk b") .empty
    let after := (w.expandAll .standard none).1.web.summary
    (w.expandAll .standard none).2 = none ∧
    w.summary = [⟨⟨.stream, "s"⟩, 0, 1, [⟨.chunk, "b"⟩]⟩, ⟨⟨.chunk, "b"⟩, 0, 1, [⟨.chunk, "a"⟩, ⟨.chunk, "a"⟩]⟩,
      ⟨⟨.chunk, "a"⟩, 1, 1, []⟩] ∧
    after.map Entry.lines = [2, 2, 1] ∧
    ∀ x ∈ w.summary, ∃ sizes, x.uses.mapM (Entry.linesOf? after) = some sizes ∧
      Entry.linesOf? after x.ref = some (x.lines + sizes.sum) := by
  have h : ((read .standard (sharing "=begin_chunk b") .empty).expandAll .standard none).2 = none :=
    Option.isNone_iff_eq_none.mp (by decide +kernel)
  obtain ⟨_, _, _, _, hadds⟩ := summary_adds_up .standard (sharing "=begin_chunk b") none
  obtain ⟨_, _, hsums⟩ := hadds h
  exact ⟨h, by decide +kernel, by decide +kernel, hsums⟩

end Web

end Literate
