import Literate.Proofs.Desk
import Literate.Proofs.Failure
import Literate.Proofs.Repository

/-!
# Positions

Uses, requests and waiting fragments remember where they stand, but nothing that is read looks at that, except that a
file is looked for beside the one that includes it. A web is *relocated* by replacing every position in it by its image.

* Items act on relocated webs as they do on the webs themselves (`Web.relocate_enact`, `Web.relocate_replay`), so
  stretches of reading that are alike up to positions leave webs behind that are (`Transcript.Alike.relocate_apply`).
* Lines that are alike up to positions are transcribed alike, if they include nothing or stand in the same file
  (`transcribeLine_alike`). So are the same lines of a document under other numbers (`transcribeLines_unnumbered`).
-/

namespace Literate

open Text Log

/-! ## Relocated webs -/

section Relocate

variable (ρ : Position → Position)

/-- A use at another position. -/
def Use.relocate (u : Use) : Use := { u with position := ρ u.position }

/-- An element at another position. -/
def Element.relocate : Element → Element
  | line i => .line i
  | use u => .use (u.relocate ρ)

/-- An entity with elements at other positions. -/
def Entity.relocate (e : Entity) : Entity := { e with elements := e.elements.map (·.relocate ρ) }

/-- A namespace with elements at other positions. -/
def Namespace.relocate (ns : Namespace) : Namespace := ns.map fun e => (e.1, e.2.relocate ρ)

/-- A repository with elements at other positions. -/
def Repository.relocate (r : Repository) : Repository := ⟨Namespace.relocate ρ r.chunk, Namespace.relocate ρ r.stream⟩

/-- A request at another position. -/
def Request.relocate (r : Request) : Request := { r with position := ρ r.position }

/-- A fragment at another position. -/
def Fragment.relocate (f : Fragment) : Fragment := { f with position := ρ f.position }

/-- A web with all positions in it replaced by their images. -/
def Web.relocate (w : Web) : Web :=
  { w with
    repository := w.repository.relocate ρ
    queue := w.queue.map (·.relocate ρ)
    pending := w.pending.map (·.relocate ρ) }

/-- An item with its positions replaced by their images. -/
def Item.relocate : Item → Item
  | literal text => .literal text
  | use u => .use (u.relocate ρ)
  | opened k names => .opened k names
  | closed k names => .closed k names
  | requested r => .requested (r.relocate ρ)

/-- A control with the position of the waiting fragment replaced by its image. -/
def Control.relocate (c : Control) : Control := { c with pending := c.pending.map (·.relocate ρ) }

/-! ## Entities -/

@[simp] theorem Entity.relocate_empty : Entity.empty.relocate ρ = .empty := by
  simp only [relocate, empty, Array.map_empty]

namespace Namespace

variable (ns : Namespace)

theorem find?_relocate (name : Text) : find? (relocate ρ ns) name = (find? ns name).map (·.relocate ρ) := by
  induction ns with
  | nil => rfl
  | cons e ns ih =>
    obtain ⟨a, e⟩ := e
    show find? ((a, e.relocate ρ) :: relocate ρ ns) name = _
    rw [find?_cons, find?_cons, ih]
    split <;> rfl

theorem relocate_define (name : Text) : relocate ρ (define ns name) = define (relocate ρ ns) name := by
  unfold define
  rw [find?_relocate, Option.isSome_map]
  split
  · rfl
  · simp only [relocate, List.map_append, List.map_cons, List.map_nil, Entity.relocate_empty]

theorem relocate_update {f g : Entity → Entity} (h : ∀ e : Entity, (f e).relocate ρ = g (e.relocate ρ)) (name : Text) :
    relocate ρ (update ns name f) = update (relocate ρ ns) name g := by
  simp only [relocate, update, List.map_map]
  refine List.map_congr_left fun e _ => ?_
  simp only [Function.comp]
  split
  · rw [h]
  · rfl

end Namespace

namespace Repository

variable (r : Repository)

/-- What is done to one namespace is done to the relocated one. -/
theorem relocate_modify {f g : Namespace → Namespace} (k : Kind)
    (h : ∀ ns, Namespace.relocate ρ (f ns) = g (Namespace.relocate ρ ns)) :
    relocate ρ (r.modify k f) = (relocate ρ r).modify k g := by
  cases k
  · exact congrArg (PerKind.mk · _) (h r.chunk)
  · exact congrArg (PerKind.mk _) (h r.stream)

theorem relocate_define (ref : Ref) : (r.define ref).relocate ρ = (r.relocate ρ).define ref :=
  relocate_modify ρ r ref.kind fun ns => Namespace.relocate_define ρ ns ref.name

theorem relocate_push (ref : Ref) (e : Element) : (r.push ref e).relocate ρ = (r.relocate ρ).push ref (e.relocate ρ) := by
  unfold push update
  rw [← relocate_define]
  refine relocate_modify ρ _ ref.kind fun ns => Namespace.relocate_update ρ ns (fun entity => ?_) ref.name
  simp only [Entity.relocate, Array.map_push]

theorem relocate_pushAll (k : Kind) (names : List Text) (e : Element) :
    (r.pushAll k names e).relocate ρ = (r.relocate ρ).pushAll k names (e.relocate ρ) := by
  induction names generalizing r with
  | nil => rfl
  | cons name names ih =>
    simp only [pushAll, List.foldl_cons] at ih ⊢
    rw [ih, relocate_push]

theorem relocate_defineAll (k : Kind) (names : List Text) :
    (names.foldl (fun (r : Repository) name => r.define ⟨k, name⟩) r).relocate ρ =
      names.foldl (fun r name => r.define ⟨k, name⟩) (r.relocate ρ) := by
  induction names generalizing r with
  | nil => rfl
  | cons name names ih =>
    simp only [List.foldl_cons]
    rw [ih, relocate_define]

end Repository

/-! ## Items -/

/-- Whether a display is queued already does not depend on positions. -/
theorem Request.relocate_enqueue (queue : Array Request) (r : Request) :
    (enqueue queue r).map (·.relocate ρ) = enqueue (queue.map (·.relocate ρ)) (r.relocate ρ) := by
  unfold enqueue
  rw [Array.any_map]
  show (if r.action = .display ∧ queue.any (·.displays r.ref) then queue else queue.push r).map _ =
    if r.action = .display ∧ queue.any (·.displays r.ref) then _ else _
  split
  · rfl
  · rw [Array.map_push]

namespace Web

theorem relocate_push (w : Web) (e : Element) : (w.push e).relocate ρ = (w.relocate ρ).push (e.relocate ρ) := by
  simp only [relocate, push, Repository.relocate_pushAll]

/-- An item does to a relocated web what it does to the web itself. -/
theorem relocate_enact (w : Web) (i : Item) : (i.enact w).relocate ρ = (i.relocate ρ).enact (w.relocate ρ) := by
  cases i with
  | literal text => exact relocate_push ρ { w with lines := w.lines.push text } (.line w.lines.size)
  | use u => exact relocate_push ρ w (.use u)
  | opened k names =>
    simp only [Item.enact, Item.relocate, openNames, relocate, Repository.relocate_defineAll]
  | closed k names => rfl
  | requested r =>
    simp only [Item.enact, Item.relocate, request, relocate, Request.relocate_enqueue]

theorem relocate_replay (w : Web) (items : List Item) :
    (w.replay items).relocate ρ = (w.relocate ρ).replay (items.map (·.relocate ρ)) := by
  induction items generalizing w with
  | nil => rfl
  | cons i items ih =>
    simp only [replay, List.foldl_cons, List.map_cons] at ih ⊢
    rw [ih, relocate_enact]

theorem relocate_under (w : Web) (c : Control) : (w.under c).relocate ρ = (w.relocate ρ).under (c.relocate ρ) := rfl

end Web

end Relocate

/-! ## Kinds of stops -/

/-- What a caller can tell apart: that a call was cancelled, that it failed, and by which fault, that it has no answer,
or that it does not end. -/
inductive StopKind where
  | canceled
  | failed (fault : Option Fault)
  | crashed
  | endless
deriving DecidableEq

/-- The kind of a stop. -/
def Stop.kind : Stop → StopKind
  | canceled => .canceled
  | failed f => .failed f.fault?
  | crashed => .crashed
  | endless => .endless

/-- The fault of a failure is told from its lineages alone. -/
theorem Failure.fault?_congr {f g : Failure} (h : f.layers.filterMap (·.lineage) = g.layers.filterMap (·.lineage)) :
    f.fault? = g.fault? := by
  have hany : ∀ (f : Failure) (fault : Fault),
      f.hasFault fault = (f.layers.filterMap (·.lineage)).any (· = .fault fault) := by
    intro f fault
    unfold hasFault
    induction f.layers with
    | nil => rfl
    | cons l ls ih =>
      cases hl : l.lineage with
      | none => simp [hl, ih]
      | some a => simp [hl, ih]
  unfold fault?
  congr 1
  funext fault
  rw [hany, hany, h]

/-! ## Alike up to positions -/

section Alike

variable (ρ : Position → Position)

/-- Controls that lead to the same reading, up to positions. The chain is left open. -/
structure Control.Alike (c c' : Control) : Prop where
  inRegion : c.inRegion = c'.inRegion
  includeCode : c.includeCode = c'.includeCode
  pending : c.pending.map (·.relocate ρ) = c'.pending.map (·.relocate ρ)

/-- Lines that say the same at positions with the same image. -/
structure LogicalLine.Alike (l l' : LogicalLine) : Prop where
  body : l.body = l'.body
  terminator : l.terminator = l'.terminator
  position : ρ l.position = ρ l'.position

/-- Stretches of reading that are the same up to positions, the chain and the wording of failures. -/
structure Transcript.Alike (t t' : Transcript) : Prop where
  control : t.control.Alike ρ t'.control
  items : t.items.map (·.relocate ρ) = t'.items.map (·.relocate ρ)
  stop : t.stop.map Stop.kind = t'.stop.map Stop.kind

end Alike

variable {ρ : Position → Position}

theorem Control.Alike.relocate_eq {c c' : Control} (h : c.Alike ρ c') (hchain : c.chain = c'.chain) :
    c.relocate ρ = c'.relocate ρ := by
  obtain ⟨inRegion, includeCode, pending, chain⟩ := c
  obtain ⟨inRegion', includeCode', pending', chain'⟩ := c'
  obtain ⟨rfl, rfl, hp⟩ := h
  obtain rfl : chain = chain' := hchain
  have hp : pending.map (·.relocate ρ) = pending'.map (·.relocate ρ) := hp
  simp only [relocate, hp]

theorem Control.Alike.refl (ρ : Position → Position) (c : Control) : c.Alike ρ c := ⟨rfl, rfl, rfl⟩

/-- What is the same up to positions is so up to coarser ones. -/
theorem Control.Alike.comp {c c' : Control} (h : c.Alike ρ c') (σ : Position → Position) : c.Alike (σ ∘ ρ) c' where
  inRegion := h.inRegion
  includeCode := h.includeCode
  pending := by
    have hp := congrArg (Option.map (Fragment.relocate σ)) h.pending
    rw [Option.map_map, Option.map_map] at hp
    exact hp

theorem Item.relocate_relocate (σ ρ : Position → Position) (i : Item) :
    (i.relocate ρ).relocate σ = i.relocate (σ ∘ ρ) := by
  cases i <;> rfl

namespace Transcript

theorem Alike.comp {t t' : Transcript} (h : t.Alike ρ t') (σ : Position → Position) : t.Alike (σ ∘ ρ) t' where
  control := h.control.comp σ
  items := by
    have hi := congrArg (List.map (Item.relocate σ)) h.items
    simp only [List.map_map, Function.comp_def, Item.relocate_relocate] at hi
    exact hi
  stop := h.stop

/-- Stretches of reading that are alike leave webs behind that are the same up to positions. -/
theorem Alike.relocate_apply {t t' : Transcript} (h : t.Alike ρ t') (hchain : t.control.chain = t'.control.chain)
    {w w' : Web} (hw : w.relocate ρ = w'.relocate ρ) : (t.apply w).relocate ρ = (t'.apply w').relocate ρ := by
  unfold apply
  rw [Web.relocate_under, Web.relocate_under, Web.relocate_replay, Web.relocate_replay, hw, h.items,
    h.control.relocate_eq hchain]

theorem Alike.andThen {t t' : Transcript} {next next' : Control → Transcript} (h : t.Alike ρ t')
    (hn : t.stop = none → (next t.control).Alike ρ (next' t'.control)) :
    (t.andThen next).Alike ρ (t'.andThen next') := by
  have hstop := h.stop
  cases ht : t.stop with
  | some stop =>
    rw [ht] at hstop
    obtain ⟨stop', ht', _⟩ := Option.map_eq_some_iff.mp hstop.symm
    rw [andThen_of_stop ht, andThen_of_stop ht']
    exact h
  | none =>
    rw [ht] at hstop
    have ht' : t'.stop = none := Option.map_eq_none_iff.mp hstop.symm
    have hn := hn ht
    rw [andThen_of_none ht, andThen_of_none ht']
    exact ⟨hn.control, by rw [List.map_append, List.map_append, h.items, hn.items], hn.stop⟩

end Transcript

/-! ## Lines that are alike -/

/-- Waiting fragments that are the same up to positions are joined alike with what follows them. -/
theorem fold_alike {p p' : Option Fragment} (hp : p.map (·.relocate ρ) = p'.map (·.relocate ρ))
    {position position' : Position} (h : ρ position = ρ position') (text : Text) :
    (∃ f f', fold p position text = .inl f ∧ fold p' position' text = .inl f' ∧ f.relocate ρ = f'.relocate ρ) ∨
      ∃ l l', fold p position text = .inr l ∧ fold p' position' text = .inr l' ∧ l.Alike ρ l' := by
  -- the content of the folded line is the same, and it begins at positions with the same image
  have hfold : ∃ body position₁ position₂, ρ position₁ = ρ position₂ ∧
      fold p position text = (if endsWith body "\\" then .inl ⟨body.dropLast, position₁⟩
        else .inr ⟨body, text.drop (trimEnd isLineEnd text).length, position₁⟩) ∧
      fold p' position' text = (if endsWith body "\\" then .inl ⟨body.dropLast, position₂⟩
        else .inr ⟨body, text.drop (trimEnd isLineEnd text).length, position₂⟩) := by
    cases p with
    | none =>
      obtain rfl : p' = none := Option.map_eq_none_iff.mp hp.symm
      exact ⟨_, _, _, h, rfl, rfl⟩
    | some f =>
      obtain ⟨f', rfl, hf⟩ := Option.map_eq_some_iff.mp hp.symm
      obtain ⟨body, q⟩ := f
      obtain ⟨body', q'⟩ := f'
      obtain ⟨rfl, hq⟩ := Fragment.mk.inj hf
      exact ⟨_, _, _, hq.symm, rfl, rfl⟩
  obtain ⟨body, q, q', hq, hf, hf'⟩ := hfold
  rw [hf, hf']
  split
  · exact Or.inl ⟨_, _, rfl, rfl, congrArg (Fragment.mk _) hq⟩
  · exact Or.inr ⟨_, _, rfl, rfl, rfl, rfl, hq⟩

namespace LogicalLine.Alike

variable {l l' : LogicalLine}

theorem classify (h : l.Alike ρ l') (g : Grammar) : g.classify l = g.classify l' := by
  obtain ⟨body, terminator, position⟩ := l
  obtain ⟨body', terminator', position'⟩ := l'
  obtain ⟨rfl, rfl, _⟩ := h
  rfl

theorem text (h : l.Alike ρ l') : l.text = l'.text := by
  unfold LogicalLine.text
  rw [h.body, h.terminator]

theorem requestOf (h : l.Alike ρ l') (action : Action) (k : Kind) (args : Text) :
    (Literate.requestOf action k args l).map (·.relocate ρ) =
      (Literate.requestOf action k args l').map (·.relocate ρ) := by
  have hr : ∀ action name target, (directiveRequest action k name target l).relocate ρ =
      (directiveRequest action k name target l').relocate ρ := by
    intro action name target
    simp only [directiveRequest, Request.relocate, h.position]
  cases action with
  | display =>
    simp only [Literate.requestOf]
    split
    · exact congrArg some (hr .display _ _)
    · rfl
  | output =>
    simp only [Literate.requestOf]
    split
    · exact congrArg some (hr .output _ _)
    · rfl
  | pipe =>
    simp only [Literate.requestOf]
    rw [Option.map_map, Option.map_map]
    exact congrArg (Option.map · _) (funext fun a => hr .pipe a.1 a.2)
  | other => rfl

theorem items (h : l.Alike ρ l') (d : Directive) (args : Text) :
    (d.items args l).map (·.relocate ρ) = (d.items args l').map (·.relocate ρ) := by
  have hr : ∀ action k, ((Literate.requestOf action k args l).toList.map Item.requested).map (·.relocate ρ) =
      ((Literate.requestOf action k args l').toList.map Item.requested).map (·.relocate ρ) := by
    intro action k
    have hr := congrArg (fun o => o.toList.map Item.requested) (h.requestOf action k args)
    simp only [Option.toList_map, List.map_map] at hr ⊢
    exact hr
  cases d with
  | use k =>
    simp only [Directive.items]
    split
    · rfl
    · simp only [List.map_cons, List.map_nil, Item.relocate, Use.relocate, h.body, h.position]
  | display k => exact hr .display k
  | output k => exact hr .output k
  | pipe k => exact hr .pipe k
  | _ => rfl

end LogicalLine.Alike

/-! ## Stretches of reading that are alike -/

/-- Whatever file is transcribed inside the same files, it is transcribed alike under controls that are the same up to
positions. -/
def Transcriber.Respects (read : Transcriber) (ρ : Position → Position) : Prop :=
  ∀ path source c c', c.Alike ρ c' → c.chain = c'.chain → (read path source c).Alike ρ (read path source c')

section Transcripts

variable {settings : Settings} {lib : Library} {read read' : Transcriber} {l l' : LogicalLine} {c c' : Control}

/-- A file is included alike by lines of the same file: it is looked for in the same places. -/
theorem transcribeInclude_alike (h : read.Respects ρ) (hl : l.position.file = l'.position.file) (hc : c.Alike ρ c')
    (hchain : c.chain = c'.chain) (target : Text) :
    (transcribeInclude settings lib read target l c).Alike ρ (transcribeInclude settings lib read target l' c') := by
  have hfault : ∀ {f f' : Failure} {a : Lineage}, f.layers.filterMap (·.lineage) = [a] →
      f'.layers.filterMap (·.lineage) = [a] → (Stop.failed f).kind = (Stop.failed f').kind :=
    fun hf hf' => congrArg StopKind.failed (Failure.fault?_congr (hf.trans hf'.symm))
  unfold transcribeInclude
  rw [← hl]
  cases lib.first? (candidates settings.searchPath target l.position.file) none with
  | error cause =>
    exact ⟨hc, rfl, congrArg some
      (hfault (Failure.unreadableInclude_madeOf l target cause).lineages
        (Failure.unreadableInclude_madeOf l' target cause).lineages)⟩
  | ok found =>
    obtain ⟨path, source⟩ := found
    dsimp only
    rw [← hchain]
    by_cases hm : c.chain.contains (Path.clean path) = true
    · rw [if_pos hm, if_pos hm]
      exact ⟨hc, rfl, congrArg some
        (hfault (Failure.duplicateInclude_madeOf l path c.chain).lineages
          (Failure.duplicateInclude_madeOf l' path c.chain).lineages)⟩
    · rw [if_neg hm, if_neg hm]
      have hr := h path source { c with chain := c.chain ++ [Path.clean path], inRegion := false }
        { c' with chain := c.chain ++ [Path.clean path], inRegion := false } ⟨rfl, hc.includeCode, hc.pending⟩ rfl
      exact ⟨⟨rfl, hr.control.includeCode, hr.control.pending⟩, hr.items, hr.stop⟩

theorem transcribeInside_alike (hl : l.Alike ρ l') (hc : c.Alike ρ c')
    (hi : ∀ target, includeTarget? settings true l = some target →
      (transcribeInclude settings lib read target l c).Alike ρ (transcribeInclude settings lib read' target l' c')) :
    (transcribeInside settings lib read l c).Alike ρ (transcribeInside settings lib read' l' c') := by
  unfold transcribeInside
  rw [← hl.classify settings.grammar]
  cases hd : settings.grammar.classify l with
  | none => exact ⟨hc, by rw [hl.text], rfl⟩
  | some d =>
    obtain ⟨d, args⟩ := d
    have hitems := hl.items d args
    cases d with
    | beginRegion =>
      exact ⟨hc, rfl, congrArg (fun k => some (StopKind.failed k))
        (Failure.fault?_congr ((Failure.delimiter_madeOf _ l c.chain).lineages.trans
          (Failure.delimiter_madeOf _ l' c'.chain).lineages.symm))⟩
    | endRegion => exact ⟨⟨rfl, hc.includeCode, hc.pending⟩, rfl, rfl⟩
    | includeCode => exact ⟨⟨hc.inRegion, rfl, hc.pending⟩, rfl, rfl⟩
    | includeFile =>
      dsimp only
      cases hf : fields args with
      | nil => exact ⟨hc, rfl, rfl⟩
      | cons target rest =>
        refine hi target ?_
        simp only [includeTarget?, if_true, hd, hf, List.head?_cons]
    | _ => exact ⟨hc, hitems, rfl⟩

theorem transcribeOutside_alike (hl : l.Alike ρ l') (hc : c.Alike ρ c') :
    (transcribeOutside settings l c).Alike ρ (transcribeOutside settings l' c') := by
  unfold transcribeOutside
  rw [← hl.body, ← hc.includeCode, ← hl.text]
  split
  · exact ⟨⟨rfl, rfl, hc.pending⟩, rfl, rfl⟩
  · split
    · exact ⟨hc, rfl, congrArg (fun k => some (StopKind.failed k))
        (Failure.fault?_congr ((Failure.delimiter_madeOf _ l c.chain).lineages.trans
          (Failure.delimiter_madeOf _ l' c'.chain).lineages.symm))⟩
    · split <;> exact ⟨hc, rfl, rfl⟩

/-- Lines that say the same are transcribed alike, if the files that they include are. -/
theorem transcribeLine_alike (hl : l.Alike ρ l') (hc : c.Alike ρ c')
    (hi : ∀ target, includeTarget? settings c.inRegion l = some target →
      (transcribeInclude settings lib read target l c).Alike ρ (transcribeInclude settings lib read' target l' c')) :
    (transcribeLine settings lib read l c).Alike ρ (transcribeLine settings lib read' l' c') := by
  unfold transcribeLine
  rw [← hc.inRegion]
  cases hr : c.inRegion with
  | true => exact transcribeInside_alike hl hc (fun target ht => hi target (by rw [hr]; exact ht))
  | false => exact transcribeOutside_alike hl hc

/-- Physical lines are transcribed alike, if the files are that are included by the logical lines that they complete. -/
theorem transcribePhysical_alike {position position' : Position} (h : ρ position = ρ position') (text : Text)
    (hc : c.Alike ρ c')
    (hi : ∀ l l' target, fold c.pending position text = .inr l → l.Alike ρ l' →
      includeTarget? settings c.inRegion l = some target →
      (transcribeInclude settings lib read target l { c with pending := none }).Alike ρ
        (transcribeInclude settings lib read' target l' { c' with pending := none })) :
    (transcribePhysical settings lib read position text c).Alike ρ
      (transcribePhysical settings lib read' position' text c') := by
  have hnone : Control.Alike ρ { c with pending := none } { c' with pending := none } :=
    ⟨hc.inRegion, hc.includeCode, rfl⟩
  unfold transcribePhysical
  rcases fold_alike hc.pending h text with ⟨f, f', hf, hf', hff⟩ | ⟨l, l', hf, hf', hl⟩
  · rw [hf, hf']
    exact ⟨⟨hc.inRegion, hc.includeCode, congrArg some hff⟩, rfl, rfl⟩
  · rw [hf, hf']
    exact transcribeLine_alike hl hnone fun target ht => hi l l' target hf hl ht

end Transcripts

/-! ## Positions without numbers -/

/-- The position of a file as a whole. -/
def Position.unnumbered (p : Position) : Position := ⟨p.file, 0⟩

section Unnumbered

variable {settings : Settings} {lib : Library} {read : Transcriber} {c c' : Control}

variable (settings lib) in
/-- A line of a file is transcribed alike under any number. -/
theorem transcribePhysical_unnumbered (h : read.Respects Position.unnumbered) (file : Text) (n m : Nat) (text : Text)
    (hc : c.Alike Position.unnumbered c') (hchain : c.chain = c'.chain) :
    (transcribePhysical settings lib read ⟨file, n⟩ text c).Alike Position.unnumbered
      (transcribePhysical settings lib read ⟨file, m⟩ text c') :=
  transcribePhysical_alike (show Position.unnumbered ⟨file, n⟩ = Position.unnumbered ⟨file, m⟩ from rfl) text hc
    fun l l' target _ hl _ =>
      have hfile : l.position.unnumbered.file = l'.position.unnumbered.file := congrArg Position.file hl.position
      have hnone : Control.Alike Position.unnumbered { c with pending := none } { c' with pending := none } :=
        ⟨hc.inRegion, hc.includeCode, rfl⟩
      transcribeInclude_alike h hfile hnone hchain target

variable (settings lib) in
/-- The same lines of a file are transcribed alike from any number on. -/
theorem transcribeLines_unnumbered (h : read.Respects Position.unnumbered) (hread : read.KeepsChain) (file : Text)
    (n m : Nat) (texts : List Text) (hc : c.Alike Position.unnumbered c') (hchain : c.chain = c'.chain) :
    (transcribeLines settings lib read file n texts c).Alike Position.unnumbered
      (transcribeLines settings lib read file m texts c') := by
  induction texts generalizing n m c c' with
  | nil => exact ⟨hc, rfl, rfl⟩
  | cons text rest ih =>
    have hp := transcribePhysical_unnumbered settings lib h file n m text hc hchain
    refine hp.andThen fun _ => ih (n + 1) (m + 1) hp.control ?_
    rw [transcribePhysical_chain settings lib hread, transcribePhysical_chain settings lib hread, hchain]

variable (settings lib) in
/-- The transcript of a source whose first line has the number `n`. -/
def transcribeFrom (depth : Nat) (name : Text) (n : Nat) (source : Source) (c : Control) : Transcript :=
  (transcribeLines settings lib (transcribeSource settings lib depth) name n (physicalLines source.text) c).andThen
    fun c => ⟨c, [], source.stop? name⟩

variable (settings lib) in
theorem transcribeSource_succ (depth : Nat) (name : Text) (source : Source) (c : Control) :
    transcribeSource settings lib (depth + 1) name source c = transcribeFrom settings lib depth name 1 source c := rfl

theorem transcribeFrom_unnumbered {depth : Nat} (h : (transcribeSource settings lib depth).Respects Position.unnumbered)
    (name : Text) (n m : Nat) (source : Source) (hc : c.Alike Position.unnumbered c') (hchain : c.chain = c'.chain) :
    (transcribeFrom settings lib depth name n source c).Alike Position.unnumbered
      (transcribeFrom settings lib depth name m source c') := by
  have hl := transcribeLines_unnumbered settings lib h (transcribeSource_keepsChain settings lib depth) name n m
    (physicalLines source.text) hc hchain
  exact hl.andThen fun _ => ⟨hl.control, rfl, rfl⟩

variable (settings lib) in
theorem transcribeSource_unnumbered (depth : Nat) :
    (transcribeSource settings lib depth).Respects Position.unnumbered := by
  induction depth with
  | zero => exact fun _ _ _ _ hc _ => ⟨hc, rfl, rfl⟩
  | succ depth ih => exact fun name source _ _ hc hchain => transcribeFrom_unnumbered ih name 1 1 source hc hchain

end Unnumbered

end Literate
