import Literate.Proofs.Invariant
import Literate.Proofs.Recognition

/-!
# Where uses stand

Every use in a web stands on a line of some file, counted from one, and has the text of its directive (`Use.Placed`).
So a failure that is located at a use always says where this is, and what stands there (`locatedUse_of_placed`).

A use has the position and the body of its logical line. A logical line begins where a physical line does, or where the
fragment does that waits for it; so what has to be kept along a document is that such a fragment begins on a line
(`Control.Placed`). This is said of one line, of the lines of a file, of a source with all files that it includes, and
of calls one after another (`history_placed`); then it is said of the entities of a web (`read_placed`).
-/

namespace Literate

open Text Log

/-! ## Placed uses -/

/-- A use stands on a line of a file, and has a text. -/
structure Use.Placed (u : Use) : Prop where
  line : 1 ≤ u.position.line
  directive : u.directive ≠ []

/-- An item that is a use is placed. -/
def Item.Placed : Item → Prop
  | use u => u.Placed
  | _ => True

/-- A fragment that waits for its continuation begins on a line. -/
def Control.Placed (c : Control) : Prop := ∀ p ∈ c.pending, 1 ≤ p.position.line

/-- What is said of placement by a stretch of reading. -/
structure Transcript.Placed (t : Transcript) : Prop where
  control : t.control.Placed
  items : ∀ i ∈ t.items, i.Placed

/-- A stretch without items. -/
theorem Transcript.Placed.idle {t : Transcript} (h : t.control.Placed) (hi : t.items = []) : t.Placed where
  control := h
  items _ hm := absurd (hi ▸ hm) List.not_mem_nil

theorem Transcript.Placed.andThen {t : Transcript} {next : Control → Transcript} (h : t.Placed)
    (hn : ∀ c : Control, c.Placed → (next c).Placed) : (t.andThen next).Placed := by
  cases hs : t.stop with
  | none =>
    rw [andThen_of_none hs]
    have hnext := hn t.control h.control
    exact ⟨hnext.control, fun i hi => (List.mem_append.mp hi).elim (h.items i) (hnext.items i)⟩
  | some stop =>
    rw [andThen_of_stop hs]
    exact h

/-- A position on a line locates something. -/
theorem Position.isZero_eq_false {p : Position} (h : 1 ≤ p.line) : p.isZero = false := by
  have hline : (p.line == 0) = false := beq_eq_false_iff_ne.mpr (by omega)
  rw [isZero, hline, Bool.and_false]

/-! ## Lines -/

/-- An empty line is no directive with a keyword. -/
theorem Grammar.keyword?_nil (g : Grammar) (k : Kind) : g.keyword? (Directive.use k).words [] = none := by
  unfold keyword? dropMarker?
  cases chars g.marker with
  | cons c p => rfl
  | nil => cases k <;> decide

/-- The use that a line makes is placed, if the line is. -/
theorem Grammar.use_placed {g : Grammar} {l : LogicalLine} {k : Kind} {args : Text} (hl : 1 ≤ l.position.line)
    (h : g.classify l = some (.use k, args)) (names : List Text) : (Use.mk k names l.body l.position).Placed where
  line := hl
  directive hbody := by
    have hm : g.keyword? (Directive.use k).words l.body = some args := g.match?_of_classify h
    rw [show l.body = [] from hbody, keyword?_nil] at hm
    cases hm

/-- A line is folded with the position of what waits for it, or with its own. -/
theorem fold_placed {pending : Option Fragment} {position : Position} (text : Text)
    (hp : ∀ p ∈ pending, 1 ≤ p.position.line) (h : 1 ≤ position.line) :
    (∀ fragment, fold pending position text = .inl fragment → 1 ≤ fragment.position.line) ∧
      ∀ l, fold pending position text = .inr l → 1 ≤ l.position.line := by
  unfold fold
  cases pending with
  | none =>
    refine ⟨fun fragment hf => ?_, fun l hf => ?_⟩ <;> dsimp only at hf <;> split at hf <;> cases hf <;> exact h
  | some p =>
    refine ⟨fun fragment hf => ?_, fun l hf => ?_⟩ <;> dsimp only at hf <;> split at hf <;> cases hf <;> exact hp p rfl

section Lines

variable (settings : Settings) {lib : Library} {read : Transcriber}

/-- Whatever file is read, the transcriber keeps placement. -/
def Transcriber.Places (read : Transcriber) : Prop :=
  ∀ path source (c : Control), c.Placed → (read path source c).Placed

variable (hread : read.Places)
include hread

theorem transcribeInclude_placed (target : Text) (l : LogicalLine) {c : Control} (hc : c.Placed) :
    (transcribeInclude settings lib read target l c).Placed := by
  unfold transcribeInclude
  split
  · exact .idle hc rfl
  · rename_i path source _
    split
    · exact .idle hc rfl
    · have h := hread path source { c with chain := c.chain ++ [Path.clean path], inRegion := false } hc
      exact ⟨h.control, h.items⟩

theorem transcribeLine_placed {l : LogicalLine} (hl : 1 ≤ l.position.line) {c : Control} (hc : c.Placed) :
    (transcribeLine settings lib read l c).Placed := by
  have hplain (items : List Item) (h : ∀ i ∈ items, i.Placed) : Transcript.Placed ⟨c, items, none⟩ := ⟨hc, h⟩
  have hliteral : Transcript.Placed ⟨c, [.literal l.text], none⟩ :=
    hplain _ fun i hi => List.mem_singleton.mp hi ▸ trivial
  have hrequested (r : Option Request) : Transcript.Placed ⟨c, r.toList.map .requested, none⟩ :=
    hplain _ fun i hi => by
      obtain ⟨q, _, rfl⟩ := List.mem_map.mp hi
      exact trivial
  unfold transcribeLine
  split
  · unfold transcribeInside
    cases hd : settings.grammar.classify l with
    | none => exact hliteral
    | some d =>
      obtain ⟨d, args⟩ := d
      cases d with
      | beginRegion => exact .idle hc rfl
      | endRegion => exact .idle hc rfl
      | includeCode => exact .idle hc rfl
      | includeFile =>
        dsimp only
        cases fields args with
        | nil => exact .idle hc rfl
        | cons target rest => exact transcribeInclude_placed settings hread target l hc
      | use k =>
        refine hplain _ fun i hi => ?_
        by_cases hf : fields args = []
        · rw [show (Directive.use k).items args l = [] from if_pos hf] at hi
          exact absurd hi List.not_mem_nil
        · rw [show (Directive.use k).items args l = [.use ⟨k, fields args, l.body, l.position⟩] from if_neg hf] at hi
          obtain rfl := List.mem_singleton.mp hi
          exact settings.grammar.use_placed hl hd _
      | beginGroup k => exact hplain _ fun i hi => List.mem_singleton.mp hi ▸ trivial
      | endGroup k => exact hplain _ fun i hi => List.mem_singleton.mp hi ▸ trivial
      | print => exact hplain _ fun i hi => List.mem_singleton.mp hi ▸ trivial
      | display k => exact hrequested _
      | output k => exact hrequested _
      | pipe k => exact hrequested _
  · unfold transcribeOutside
    split
    · exact .idle hc rfl
    · split
      · exact .idle hc rfl
      · split
        · exact hliteral
        · exact .idle hc rfl

theorem transcribeLines_placed (file : Text) {n : Nat} (hn : 1 ≤ n) (texts : List Text) {c : Control} (hc : c.Placed) :
    (transcribeLines settings lib read file n texts c).Placed := by
  induction texts generalizing n c with
  | nil => exact .idle hc rfl
  | cons text rest ih =>
    refine Transcript.Placed.andThen ?_ fun c hc => ih (by omega) hc
    have hposition : 1 ≤ (⟨file, n⟩ : Position).line := Int.ofNat_le.mpr hn
    obtain ⟨hfragment, hline⟩ := fold_placed text hc hposition
    unfold transcribePhysical
    cases hf : fold c.pending ⟨file, n⟩ text with
    | inl fragment => exact .idle (fun p hp => Option.some.inj hp ▸ hfragment fragment hf) rfl
    | inr l => exact transcribeLine_placed settings hread (hline l hf) fun p hp => nomatch hp

end Lines

/-! ## Whole calls -/

section Calls

variable (settings : Settings)

/-- **Reading a source keeps placement**, and so do the files that it includes. -/
theorem transcribeSource_placed (lib : Library) (depth : Nat) : (transcribeSource settings lib depth).Places := by
  induction depth with
  | zero => exact fun _ _ _ hc => .idle hc rfl
  | succ depth ih =>
    intro name source c hc
    have hlines : (transcribeLines settings lib (transcribeSource settings lib depth) name 1
        (physicalLines source.text) c).Placed :=
      transcribeLines_placed settings ih name (Nat.le_refl 1) _ hc
    unfold transcribeSource
    exact hlines.andThen fun c hc => .idle hc rfl

theorem transcribeCall_placed (lib : Library) (live : Bool) (name : Text) (source : Source) {c : Control}
    (hc : c.Placed) : (transcribeCall settings lib live name source c).Placed := by
  unfold transcribeCall
  cases live with
  | false => exact .idle hc rfl
  | true =>
    have h := transcribeSource_placed settings lib (lib.limit + 1) name source { c with chain := [Path.clean name] } hc
    exact ⟨h.control, h.items⟩

theorem Reading.transcribe_placed (r : Reading) {c : Control} (hc : c.Placed) : (r.transcribe settings c).Placed := by
  cases r with
  | parse lib live name source => exact transcribeCall_placed settings lib live name source hc
  | parseFile lib live name =>
    simp only [transcribe]
    cases lib.read name with
    | error e => exact .idle hc rfl
    | ok source => exact transcribeCall_placed settings lib live name source hc
  | request q => exact ⟨hc, fun i hi => List.mem_singleton.mp hi ▸ trivial⟩

/-- All uses that calls read are placed. -/
theorem Reading.history_placed (readings : List Reading) {c : Control} (hc : c.Placed) :
    ∀ i ∈ history settings c readings, i.Placed := by
  induction readings generalizing c with
  | nil => exact fun i hi => absurd hi List.not_mem_nil
  | cons r rest ih =>
    have h := r.transcribe_placed settings hc
    exact fun i hi => (List.mem_append.mp hi).elim (h.items i) (ih h.control i)

end Calls

/-! ## Entities -/

/-- Every use in an entity is placed. -/
def Repository.Placed (r : Repository) : Prop :=
  ∀ ref e, r.find? ref = some e → ∀ u, .use u ∈ e.elements.toList → u.Placed

namespace Web

variable {w : Web}

theorem placed_enact (ht : w.Tidy) (h : w.repository.Placed) {i : Item} (hi : i.Placed) :
    (i.enact w).repository.Placed := by
  intro ref e he u hu
  rcases find?_enact_cases ht i he with hd | rfl | ⟨d, x, hd, rfl, _, hx⟩
  · exact h ref e hd u hu
  · exact absurd hu (by simp [Entity.empty])
  · rw [show (d.append x).elements.toList = d.elements.toList ++ [x] from Array.toList_push, List.mem_append,
      List.mem_singleton] at hu
    rcases hu with hu | rfl
    · exact h ref d hd u hu
    · -- the new element is the use that is read
      cases i with
      | use v =>
        obtain rfl : v = u := Element.use.inj (Option.some.inj hx)
        exact hi
      | _ => cases hx

theorem placed_replay (ht : w.Tidy) (h : w.repository.Placed) {items : List Item} (hi : ∀ i ∈ items, i.Placed) :
    (w.replay items).repository.Placed := by
  induction items generalizing w with
  | nil => exact h
  | cons i items ih =>
    exact ih (enact_tidy ht i) (placed_enact ht h (hi i List.mem_cons_self)) fun j hj =>
      hi j (List.mem_cons_of_mem _ hj)

/-- **Every use that is read into a web is placed.** -/
theorem read_placed (settings : Settings) (readings : List Reading) :
    (read settings readings .empty).repository.Placed := by
  obtain ⟨c, hc⟩ := read_eq settings readings (w := .empty) rfl
  rw [hc]
  refine placed_replay (w := .empty) sound_empty.tidy (fun ref e he => ?_)
    (Reading.history_placed settings readings fun p hp => nomatch hp)
  obtain ⟨k, name⟩ := ref
  cases k <;> exact nomatch he

end Web

/-! ## Failures at uses -/

/-- A failure at a placed use says where the use stands, and what it is. -/
theorem Failure.locatedUse_of_placed (f : Failure) {u : Use} (h : u.Placed) :
    f.locatedUse (some u) =
      f.withAttrs [Attr.text "position" u.position.text, Attr.text "directive" u.directive] := by
  show f.located u.position u.directive = _
  unfold located
  rw [Position.isZero_eq_false h.line, if_neg Bool.false_ne_true, if_neg h.directive]
  rfl

end Literate
