import Literate.Proofs.Invariant

/-!
# The meaning of chunks and streams

What a name means is said by the entities as they were read, without any expansion (`Flattens`): a line is itself, and
a use is what each of its names means, one after another, as often as it is named.

The main statement is that expanding a web computes this (`expandAll_flattens`): every entity becomes the list of
lines that it means, so the text of a name is the text of its pieces, one after another, and does not depend on the
order in which the names were defined.
-/

namespace Literate

/-! ## Flattening -/

/-- The indices of the lines that pieces mean. -/
inductive Flattens (r : Repository) : List Piece → List Nat → Prop
  | nil : Flattens r [] []
  | line {i rest out} : Flattens r rest out → Flattens r (.line i :: rest) (i :: out)
  | mention {ref u e sub rest out} : r.find? ref = some e → Flattens r e.pieces sub → Flattens r rest out →
      Flattens r (.mention ref u :: rest) (sub ++ out)

section Flattening

variable {r r' : Repository} {ps : List Piece} {is js : List Nat}

/-- Pieces mean one thing only. -/
theorem Flattens.unique (h : Flattens r ps is) (h' : Flattens r ps js) : is = js := by
  induction h generalizing js with
  | nil =>
    cases h'
    rfl
  | line _ ih =>
    cases h' with
    | line hrest => rw [ih hrest]
  | mention he _ _ ihsub ih =>
    cases h' with
    | mention he' hsub hrest =>
      obtain rfl := Option.some.inj (he.symm.trans he')
      rw [ihsub hsub, ih hrest]

/-- What pieces mean depends on nothing but the entities of references. -/
theorem Flattens.congr (hr : ∀ ref, r'.find? ref = r.find? ref) (h : Flattens r ps is) : Flattens r' ps is := by
  induction h with
  | nil => exact .nil
  | line _ ih => exact .line ih
  | mention he _ _ ihsub ih => exact .mention ((hr _).trans he) ihsub ih

/-- Where nothing is expanded, pieces stand for the lines that they mean. -/
theorem Unfolds.flattens (hr : r.Unexpanded) {out : List Element} (h : Unfolds r ps out) :
    ∃ is, Flattens r ps is ∧ out = is.map .line := by
  induction h with
  | nil => exact ⟨[], .nil, rfl⟩
  | line _ ih =>
    obtain ⟨is, his, rfl⟩ := ih
    exact ⟨_ :: is, .line his, rfl⟩
  | expanded he hres _ _ => exact absurd ((hr _ _ he).symm.trans hres) Bool.noConfusion
  | inside he _ _ _ ihsub ih =>
    obtain ⟨is, his, rfl⟩ := ihsub
    obtain ⟨js, hjs, rfl⟩ := ih
    exact ⟨is ++ js, .mention he his hjs, List.map_append.symm⟩

/-- The lines that pieces mean are lines that entities mention. -/
theorem Flattens.lt {n : Nat} (hr : r.LinesBelow n) (h : Flattens r ps is) (hp : ∀ i, .line i ∈ ps → i < n) :
    ∀ i ∈ is, i < n := by
  induction h with
  | nil => exact fun i hi => absurd hi List.not_mem_nil
  | line _ ih =>
    intro i hi
    rcases List.mem_cons.mp hi with rfl | hi
    · exact hp _ List.mem_cons_self
    · exact ih (fun j hj => hp j (List.mem_cons_of_mem _ hj)) i hi
  | mention he _ _ ihsub ih =>
    intro i hi
    rcases List.mem_append.mp hi with hi | hi
    · exact ihsub (fun j hj => hr _ _ he j (mem_pieces_line.mp hj)) i hi
    · exact ih (fun j hj => hp j (List.mem_cons_of_mem _ hj)) i hi

end Flattening

/-! ## Texts -/

/-- The text of stored lines. -/
def textOf (lines : Array Text) (is : List Nat) : Text := (is.map (lines.getD · [])).flatten

/-- The text of a piece in an expanded web. -/
def Web.renderPiece? (w : Web) : Piece → Option Text
  | .line i => w.lines[i]?
  | .mention ref _ => (w.render ref).toOption

/-- A stored line has a text. -/
theorem getElem?_lines {lines : Array Text} {i : Nat} (h : i < lines.size) : lines[i]? = some (lines.getD i []) := by
  rw [Array.getElem?_eq_getElem h, Array.getD, dif_pos h]
  rfl

theorem renderElements_lines {lines : Array Text} {is : List Nat} (h : ∀ i ∈ is, i < lines.size) :
    renderElements lines (is.map .line).toArray = some (textOf lines is) := by
  have hm : (is.map Element.line).mapM (Element.text? lines) = some (is.map (lines.getD · [])) := by
    induction is with
    | nil => rfl
    | cons i is ih =>
      have hi : lines[i]? = some (lines.getD i []) := getElem?_lines (h i List.mem_cons_self)
      rw [List.map_cons, List.mapM_cons, ih (fun j hj => h j (List.mem_cons_of_mem _ hj))]
      simp only [Element.text?, hi]
      rfl
  unfold renderElements
  rw [hm]
  rfl

/-- The text of an entity that holds stored lines. -/
theorem Web.render_of_lines {w : Web} {ref : Ref} {is : List Nat}
    (he : w.repository.find? ref = some ⟨(is.map .line).toArray, true⟩) (h : ∀ i ∈ is, i < w.lines.size) :
    w.render ref = .ok (textOf w.lines is) := by
  unfold render
  rw [he]
  simp only [Bool.not_true, Bool.false_eq_true, if_false]
  rw [renderElements_lines h]

/-- Where every reference has the text that it means, so have pieces, part by part. -/
theorem Flattens.render {r : Repository} {w : Web} {ps : List Piece} {is : List Nat} (h : Flattens r ps is)
    (hw : ∀ ref e sub, r.find? ref = some e → Flattens r e.pieces sub → w.render ref = .ok (textOf w.lines sub))
    (hp : ∀ i, .line i ∈ ps → i < w.lines.size) :
    ∃ parts, ps.mapM w.renderPiece? = some parts ∧ parts.flatten = textOf w.lines is := by
  induction h with
  | nil => exact ⟨[], rfl, rfl⟩
  | @line i rest out _ ih =>
    obtain ⟨parts, hparts, htext⟩ := ih (fun j hj => hp j (List.mem_cons_of_mem _ hj))
    have hi : w.lines[i]? = some (w.lines.getD i []) := getElem?_lines (hp i List.mem_cons_self)
    refine ⟨w.lines.getD i [] :: parts, ?_, by rw [List.flatten_cons, htext]; rfl⟩
    rw [List.mapM_cons, hparts]
    simp only [Web.renderPiece?, hi]
    rfl
  | @mention ref u e sub rest out he hsub _ _ ih =>
    obtain ⟨parts, hparts, htext⟩ := ih (fun j hj => hp j (List.mem_cons_of_mem _ hj))
    refine ⟨textOf w.lines sub :: parts, ?_, by rw [List.flatten_cons, htext]; simp [textOf]⟩
    rw [List.mapM_cons, hparts]
    simp only [Web.renderPiece?, hw ref e sub he hsub]
    rfl

/-! ## Expanding -/

namespace Web

variable {settings : Settings} {w : Web}

/-- What expanding makes of every entity of a web into which documents were read. -/
theorem Fresh.flattened (h : w.Fresh) {patience : Option Nat} (ho : (w.expandAll settings patience).2 = none)
    {ref : Ref} {e : Entity} (he : w.repository.find? ref = some e) : ∃ is, Flattens w.repository e.pieces is ∧
      (∀ i ∈ is, i < w.lines.size) ∧
      (w.expandAll settings patience).1.web.repository.find? ref = some ⟨(is.map .line).toArray, true⟩ := by
  have hspec := expandAll_spec settings patience h.expanded h.sound.guard
  obtain ⟨out, ⟨d, hd, hout⟩, hfind⟩ := hspec.ok ho ref (by rw [he]; rfl)
  obtain rfl := Option.some.inj (hd.symm.trans he)
  rcases hout with ⟨hr, _⟩ | ⟨_, hu⟩
  · exact absurd ((h.unresolved ref d hd).symm.trans hr) Bool.noConfusion
  · obtain ⟨is, his, rfl⟩ := hu.flattens h.unresolved
    exact ⟨is, his, his.lt h.sound.lines (fun i hi => h.sound.lines ref d hd i (mem_pieces_line.mp hi)), hfind⟩

theorem Fresh.lines_expandAll (h : w.Fresh) (settings : Settings) :
    (w.expandAll settings none).1.web.lines = w.lines := by
  rw [(expandAll_spec settings none h.expanded h.sound.guard).frame]

theorem Fresh.find?_expandAll_eq_none (h : w.Fresh) {ref : Ref}
    (hn : w.repository.find? ref = none) : (w.expandAll settings none).1.web.repository.find? ref = none := by
  have hs := (expandAll_spec settings none h.expanded h.sound.guard).expanding.isSome_find? ref
  rw [hn] at hs
  exact Option.not_isSome_iff_eq_none.mp fun hsome => absurd (hs.mp hsome) (by simp)

/-- So every name has the text that it means. -/
theorem Fresh.rendered (h : w.Fresh) (ho : (w.expandAll settings none).2 = none) {ref : Ref} {e : Entity}
    (he : w.repository.find? ref = some e) {is : List Nat} (his : Flattens w.repository e.pieces is) :
    (w.expandAll settings none).1.web.render ref = .ok (textOf w.lines is) := by
  obtain ⟨js, hjs, hlt, hfind⟩ := h.flattened ho he
  obtain rfl := hjs.unique his
  rw [← h.lines_expandAll settings] at hlt ⊢
  exact render_of_lines hfind hlt

/-- **Expansion computes the meaning of every name.** After reading calls of any kind, and an expansion that succeeds,
the stored lines and the defined names are the same, and every entity holds the lines that it means, and these only. The
text of a name is that of its pieces as they were read. Another web with the same lines and entities gets the same
entities and texts, in whatever order its names were defined. -/
theorem expandAll_flattens (settings : Settings) (readings : List Reading)
    (h : ((read settings readings .empty).expandAll settings none).2 = none) :
    let w := read settings readings .empty
    let w' := (w.expandAll settings none).1.web
    w'.lines = w.lines ∧ (∀ k, w'.repository.names k = w.repository.names k) ∧
    (∀ ref e, w.repository.find? ref = some e →
      (∃ is, (∀ js, Flattens w.repository e.pieces js ↔ js = is) ∧
        w'.repository.find? ref = some ⟨(is.map .line).toArray, true⟩ ∧ w'.render ref = .ok (textOf w.lines is)) ∧
      ∃ parts, e.pieces.mapM w'.renderPiece? = some parts ∧ w'.render ref = .ok parts.flatten) ∧
    ∀ (settings₂ : Settings) (readings₂ : List Reading),
      let w₂ := read settings₂ readings₂ .empty
      let w₂' := (w₂.expandAll settings₂ none).1.web
      w₂.lines = w.lines → (∀ ref, w₂.repository.find? ref = w.repository.find? ref) →
      (w₂.expandAll settings₂ none).2 = none → ∀ ref, w₂'.repository.find? ref = w'.repository.find? ref ∧
        (w.repository.has ref → w₂'.render ref = w'.render ref) := by
  intro w w'
  have hw : w.Fresh := read_fresh settings readings
  have hnames := (expandAll_spec settings none hw.expanded hw.sound.guard).expanding.names
  refine ⟨hw.lines_expandAll settings, hnames, fun ref e he => ?_, ?_⟩
  · obtain ⟨is, his, hlt, hfind⟩ := hw.flattened h he
    have hrender := hw.rendered h he his
    refine ⟨⟨is, fun js => ⟨fun hjs => hjs.unique his, fun hjs => hjs ▸ his⟩, hfind, hrender⟩, ?_⟩
    obtain ⟨parts, hparts, htext⟩ := his.render (w := w')
      (fun b d sub hd hsub => by rw [hw.rendered h hd hsub, hw.lines_expandAll settings])
      (fun i hi => by rw [hw.lines_expandAll settings]; exact hw.sound.lines ref e he i (mem_pieces_line.mp hi))
    refine ⟨parts, hparts, ?_⟩
    rw [htext, hw.lines_expandAll settings]
    exact hrender
  · intro settings₂ readings₂ w₂ w₂' hlines hfind hx₂ ref
    have hw₂ : w₂.Fresh := read_fresh settings₂ readings₂
    cases he : w.repository.find? ref with
    | none =>
      refine ⟨?_, fun hhas => ?_⟩
      · rw [hw.find?_expandAll_eq_none he]
        exact hw₂.find?_expandAll_eq_none ((hfind ref).trans he)
      · rw [Repository.has, he] at hhas
        exact absurd hhas (by simp)
    | some e =>
      have he₂ : w₂.repository.find? ref = some e := (hfind ref).trans he
      obtain ⟨is, his, _, hf⟩ := hw.flattened h he
      obtain ⟨js, hjs, _, hf₂⟩ := hw₂.flattened hx₂ he₂
      obtain rfl := (his.congr hfind).unique hjs
      refine ⟨hf₂.trans hf.symm, fun _ => ?_⟩
      rw [hw.rendered h he his, ← hlines]
      exact hw₂.rendered hx₂ he₂ hjs

/-- A document in which a stream uses a chunk that uses another one twice, after a directive. -/
def sharing (directive : Text) : List Reading :=
  [.parse (.ofList []) true "f" { text := "=begin litweb\n" ++ directive ++
    "\n=end_chunk a\n=use_chunk a a\n=end_chunk b\n=begin_chunk a\nx\n=end_chunk a\n=begin_stream s\n=use_chunk b\n" }]

/-- The chunk that is used may be defined first or last. -/
theorem expandAll_flattens_sharing :
    ((read .standard (sharing "=begin_chunk b") .empty).expandAll .standard none).2 = none ∧
    (read .standard (sharing "=begin_chunk b") .empty).repository.names .chunk ≠
      (read .standard (sharing "=begin_chunk a b") .empty).repository.names .chunk ∧
    ∀ ref,
      ((read .standard (sharing "=begin_chunk a b") .empty).expandAll .standard none).1.web.repository.find? ref =
        ((read .standard (sharing "=begin_chunk b") .empty).expandAll .standard none).1.web.repository.find? ref := by
  have h : ((read .standard (sharing "=begin_chunk b") .empty).expandAll .standard none).2 = none :=
    Option.isNone_iff_eq_none.mp (by decide +kernel)
  have h₂ : ((read .standard (sharing "=begin_chunk a b") .empty).expandAll .standard none).2 = none :=
    Option.isNone_iff_eq_none.mp (by decide +kernel)
  obtain ⟨_, _, _, horder⟩ := expandAll_flattens .standard (sharing "=begin_chunk b") h
  have hsame := horder .standard (sharing "=begin_chunk a b") (by decide +kernel)
    (Repository.find?_ext (by decide +kernel) (by decide +kernel)) h₂
  exact ⟨h, by decide +kernel, fun ref => (hsame ref).1⟩

end Web

end Literate
