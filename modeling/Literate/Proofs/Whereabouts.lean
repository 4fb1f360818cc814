import Literate.Proofs.Faults
import Literate.Proofs.PhysicalLines
import Literate.Proofs.Placement
import Mathlib.Data.List.DropRight

/-!
# Where directives stand

Uses, requests and failures say where their directive stands: in a file, and on one of its lines. Lines are counted in
each document by itself, while a fragment that waits for its continuation goes from one document to the next, and keeps
the position that it has. So what has to be shown is that a position always names a document that is read and one of its
lines, and that the directive begins with what this line says (`Desk.Locates`).

A step keeps this for what lies on the desk, for the fragment that waits, and for what has been read into the web
(`Desk.Traced.step`). So it holds of all that a call records, and of the failure with which it ends, if it does
(`Web.parse_locates`).
-/

namespace Literate

open Text Log

/-! ## How lines begin -/

namespace Text

/-- What a directive says of the physical line with which it begins, whether or not it goes on in the next one: the
content without backslashes at its end. -/
def stem (t : Text) : Text := trimEnd (· == byte '\\') (content t)

theorem stem_prefix (t : Text) : stem t <+: content t := List.rdropWhile_prefix _ _

/-- A text that does not end in a backslash is not cut by taking one away from what begins with it. -/
theorem prefix_dropLast {x t : Text} (hx : endsWith x "\\" = false) (h : x <+: t) (ht : endsWith t "\\" = true) :
    x <+: t.dropLast := by
  obtain ⟨rest, rfl⟩ := h
  have hne : rest ≠ [] := by
    rintro rfl
    rw [List.append_nil, hx] at ht
    exact absurd ht Bool.false_ne_true
  rw [List.dropLast_append_of_ne_nil hne]
  exact List.prefix_append _ _

theorem endsWith_stem (t : Text) : endsWith (stem t) "\\" = false := by
  rw [Bool.eq_false_iff, ne_eq, endsWith_backslash]
  intro hlast
  have hne : stem t ≠ [] := by
    intro hnil
    rw [hnil] at hlast
    exact nomatch hlast
  refine List.rdropWhile_last_not (· == byte '\\') (content t) hne ?_
  rw [List.getLast?_eq_some_getLast hne] at hlast
  exact beq_iff_eq.mpr (Option.some.inj hlast)

end Text

/-! ## What a web gains -/

namespace Repository

/-- The elements of a reference. One that is not defined has none. -/
def elements (r : Repository) (ref : Ref) : List Element := ((r.find? ref).map (·.elements.toList)).getD []

variable (r : Repository)

theorem elements_defineAll (k : Kind) (names : List Text) (ref : Ref) :
    (r.defineAll k names).elements ref = r.elements ref := by
  unfold elements
  rw [find?_defineAll]
  split
  · cases r.find? ref <;> rfl
  · rfl

theorem elements_push (a b : Ref) (e : Element) :
    (r.push a e).elements b = r.elements b ++ List.replicate (if b = a then 1 else 0) e := by
  unfold elements
  rw [find?_push]
  split
  · rename_i hb
    subst hb
    cases r.find? b <;> simp [Entity.append, Entity.empty]
  · simp

theorem elements_pushAll (k : Kind) (names : List Text) (e : Element) (ref : Ref) :
    ∃ n, (r.pushAll k names e).elements ref = r.elements ref ++ List.replicate n e := by
  induction names generalizing r with
  | nil => exact ⟨0, (List.append_nil _).symm⟩
  | cons name names ih =>
    obtain ⟨n, hn⟩ := ih (r.push ⟨k, name⟩ e)
    refine ⟨(if ref = ⟨k, name⟩ then 1 else 0) + n, ?_⟩
    rw [List.replicate_add, ← List.append_assoc, ← elements_push]
    exact hn

end Repository

namespace Web

/-- What a web has gained to become another: elements and requests have been added behind those that were there, and the uses
and requests among them have these properties. -/
structure Gains (P : Use → Prop) (Q : Request → Prop) (w v : Web) : Prop where
  elements : ∀ ref, ∃ more, v.repository.elements ref = w.repository.elements ref ++ more ∧ ∀ u, .use u ∈ more → P u
  queue : ∃ more, v.queue.toList = w.queue.toList ++ more ∧ ∀ q ∈ more, Q q

namespace Gains

variable {P : Use → Prop} {Q : Request → Prop} {w v u : Web}

/-- Nothing has been added. -/
theorem of_eq (hr : v.repository = w.repository) (hq : v.queue = w.queue) : Gains P Q w v where
  elements _ := ⟨[], by rw [hr, List.append_nil], fun _ hu => absurd hu List.not_mem_nil⟩
  queue := ⟨[], by rw [hq, List.append_nil], fun _ hq => absurd hq List.not_mem_nil⟩

theorem trans (h : Gains P Q w v) (h' : Gains P Q v u) : Gains P Q w u where
  elements ref := by
    obtain ⟨xs, hxs, hP⟩ := h.elements ref
    obtain ⟨ys, hys, hP'⟩ := h'.elements ref
    refine ⟨xs ++ ys, by rw [hys, hxs, List.append_assoc], fun x hx => ?_⟩
    exact (List.mem_append.mp hx).elim (hP x) (hP' x)
  queue := by
    obtain ⟨qs, hqs, hQ⟩ := h.queue
    obtain ⟨rs, hrs, hQ'⟩ := h'.queue
    refine ⟨qs ++ rs, by rw [hrs, hqs, List.append_assoc], fun q hq => ?_⟩
    exact (List.mem_append.mp hq).elim (hQ q) (hQ' q)

/-- An element is pushed. -/
theorem push (w : Web) {e : Element} (h : ∀ x, e = .use x → P x) : Gains P Q w (w.push e) where
  elements ref := by
    obtain ⟨m, hm⟩ := w.repository.elements_pushAll .chunk w.opened.chunk e ref
    obtain ⟨n, hn⟩ := (w.repository.pushAll .chunk w.opened.chunk e).elements_pushAll .stream w.opened.stream e ref
    refine ⟨List.replicate (m + n) e, ?_, fun x hx => h x (List.eq_of_mem_replicate hx).symm⟩
    rw [List.replicate_add, ← List.append_assoc, ← hm]
    exact hn
  queue := ⟨[], (List.append_nil _).symm, fun _ hq => absurd hq List.not_mem_nil⟩

/-- An item adds the use or the request that it is, if it is one. -/
theorem enact (w : Web) {i : Item} (hP : ∀ x, i = .use x → P x) (hQ : ∀ q, i = .requested q → Q q) :
    Gains P Q w (i.enact w) := by
  cases i with
  | literal text =>
    have hstored : Gains P Q w { w with lines := w.lines.push text } := of_eq rfl rfl
    exact hstored.trans (push _ fun x hx => nomatch hx)
  | use x => exact push w fun y hy => hP y (congrArg Item.use (Element.use.inj hy))
  | opened k names =>
    refine ⟨fun ref => ⟨[], ?_, fun _ hu => absurd hu List.not_mem_nil⟩,
      [], (List.append_nil _).symm, fun _ hq => absurd hq List.not_mem_nil⟩
    rw [List.append_nil]
    exact w.repository.elements_defineAll k names ref
  | closed k names => exact of_eq rfl rfl
  | requested q =>
    refine ⟨fun ref => ⟨[], (List.append_nil _).symm, fun _ hu => absurd hu List.not_mem_nil⟩, ?_⟩
    show ∃ more, (Request.enqueue w.queue q).toList = _ ∧ _
    unfold Request.enqueue
    split
    · exact ⟨[], (List.append_nil _).symm, fun _ hq => absurd hq List.not_mem_nil⟩
    · exact ⟨[q], Array.toList_push, fun r hr => hQ r (congrArg Item.requested (List.mem_singleton.mp hr).symm)⟩

theorem replay (w : Web) {items : List Item} (hP : ∀ x, .use x ∈ items → P x) (hQ : ∀ q, .requested q ∈ items → Q q) :
    Gains P Q w (w.replay items) := by
  induction items generalizing w with
  | nil => exact of_eq rfl rfl
  | cons i items ih =>
    refine (enact w (fun x hx => hP x (hx ▸ List.mem_cons_self)) fun q hq => hQ q (hq ▸ List.mem_cons_self)).trans ?_
    exact ih (i.enact w) (fun x hx => hP x (List.mem_cons_of_mem _ hx)) fun q hq => hQ q (List.mem_cons_of_mem _ hq)

end Gains

end Web

/-! ## What a line says of its position -/

/-- A failure does not say where it arose. -/
def Failure.Placeless (f : Failure) : Prop := ∀ a ∈ f.attached, a.1 ≠ "position"

/-- If a failure says where it arose, then this is at a line, which it cites. -/
def Failure.Cites (f : Failure) (l : LogicalLine) : Prop :=
  ∀ a ∈ f.attached, a.1 = "position" →
    a = Attr.text "position" l.position.text ∧ Attr.text "directive" l.body ∈ f.attached

namespace Failure

theorem file_ne_position (file : Text) : (Attr.text "file" file).1 ≠ "position" := by
  show (("file" : String) : Text) ≠ ("position" : String)
  decide

theorem chain_ne_position (chain : Text) : (Attr.text "chain" chain).1 ≠ "position" := by
  show (("chain" : String) : Text) ≠ ("position" : String)
  decide

/-- A failure that names a file, and nothing else, does not say where it arose. -/
theorem placeless_of_attached {f : Failure} {file : Text} (h : f.attached = [Attr.text "file" file]) : f.Placeless := by
  intro a ha
  rw [h] at ha
  rw [List.mem_singleton.mp ha]
  exact file_ne_position file

theorem cites_located {g : Fault} {cause : Option Failure} {l : LogicalLine} (hl : l.body ≠ []) {attrs : List Attr}
    (h : ∀ a ∈ attrs, a.1 ≠ "position") :
    ((((ofFault g).wrap cause).located l.position l.body).withAttrs attrs).Cites l := by
  have hattached : ((((ofFault g).wrap cause).located l.position l.body).withAttrs attrs).attached =
      ((if l.position.isZero then [] else [Attr.text "position" l.position.text]) ++
        [Attr.text "directive" l.body]) ++ attrs := by
    show (_ ++ (if l.body = [] then _ else _)) ++ attrs = _
    rw [if_neg hl]
  unfold Cites
  rw [hattached]
  intro a ha hkey
  refine ⟨?_, List.mem_append_left _ (List.mem_append_right _ List.mem_cons_self)⟩
  rcases List.mem_append.mp ha with ha | ha
  · rcases List.mem_append.mp ha with ha | ha
    · split at ha
      · exact absurd ha List.not_mem_nil
      · exact List.mem_singleton.mp ha
    · have hdirective : (("directive" : String) : Text) ≠ ("position" : String) := by decide
      rw [List.mem_singleton.mp ha] at hkey
      exact absurd hkey hdirective
  · exact absurd hkey (h a ha)

variable {l : LogicalLine}

theorem cites_delimiter (hl : l.body ≠ []) (fault : Fault) (chain : List Text) : (delimiter fault l chain).Cites l :=
  cites_located hl fun _ ha => List.mem_singleton.mp ha ▸ chain_ne_position _

theorem cites_unreadableInclude (hl : l.body ≠ []) (target : Text) (cause : Option Text) :
    (unreadableInclude l target cause).Cites l :=
  cites_located hl fun _ ha => List.mem_singleton.mp ha ▸ file_ne_position _

theorem cites_duplicateInclude (hl : l.body ≠ []) (path : Text) (chain : List Text) :
    (duplicateInclude l path chain).Cites l :=
  cites_located hl fun a ha => by
    rcases List.mem_cons.mp ha with rfl | ha
    · exact file_ne_position path
    · exact List.mem_singleton.mp ha ▸ chain_ne_position _

end Failure

namespace Grammar

variable (g : Grammar)

/-- After the marker, nothing is found in an empty line. -/
theorem dropMarker?_nil_bind {α : Type} {f : Text → Option α} (hf : f [] = none) :
    (g.dropMarker? []).bind f = none := by
  unfold dropMarker?
  cases chars g.marker with
  | nil => exact hf
  | cons c p => rfl

/-- An empty line delimits no region. -/
theorem body_ne_nil_of_delimiter? {l : LogicalLine} {b : Bool} (h : g.delimiter? l = some b) : l.body ≠ [] := by
  intro hnil
  have hregion : ∀ verb : Text, dropFold? (chars verb) [] = none → g.isRegion verb [] = false := by
    intro verb hverb
    unfold isRegion
    rw [g.dropMarker?_nil_bind hverb]
  have hbegin : g.isBegin [] = false := hregion "begin" (by decide)
  have hend : g.isEnd [] = false := hregion "end" (by decide)
  have hnone : g.delimiter? l = none := delimiter?_eq_none_iff.mpr (by simp only [hnil, hbegin, hend]; decide)
  exact nomatch hnone.symm.trans h

/-- An empty line includes nothing. -/
theorem body_ne_nil_of_includes {settings : Settings} {inRegion : Bool} {l : LogicalLine} {target : Text}
    (h : includeTarget? settings inRegion l = some target) : l.body ≠ [] := by
  intro hnil
  have hkeyword : settings.grammar.keyword? Directive.includeFile.words [] = none :=
    settings.grammar.dropMarker?_nil_bind (by decide)
  unfold includeTarget? at h
  split at h
  · split at h
    · rename_i args hd
      have hmatch : settings.grammar.keyword? Directive.includeFile.words l.body = some args :=
        settings.grammar.match?_of_classify hd
      rw [hnil, hkeyword] at hmatch
      exact nomatch hmatch
    · exact nomatch h
  · exact nomatch h

end Grammar

/-- A request of a directive stands where its line does. -/
theorem position_of_requestOf {action : Action} {k : Kind} {args : Text} {l : LogicalLine} {q : Request}
    (h : requestOf action k args l = some q) : q.position = l.position := by
  unfold requestOf at h
  cases action with
  | display =>
    dsimp only at h
    split at h
    · exact Option.some.inj h ▸ rfl
    · exact nomatch h
  | output =>
    dsimp only at h
    split at h
    · exact Option.some.inj h ▸ rfl
    · exact nomatch h
  | pipe =>
    obtain ⟨_, _, rfl⟩ := Option.map_eq_some_iff.mp h
    rfl
  | other code => exact nomatch h

/-- A directive says of itself where its line stands, and what it says. -/
theorem Directive.items_position (d : Directive) (args : Text) (l : LogicalLine) :
    (∀ u, .use u ∈ d.items args l → u.position = l.position ∧ u.directive = l.body) ∧
      ∀ q, .requested q ∈ d.items args l → q.position = l.position := by
  have hrequested : ∀ r : Option Request, (∀ q, r = some q → q.position = l.position) →
      (∀ u, Item.use u ∈ r.toList.map Item.requested → u.position = l.position ∧ u.directive = l.body) ∧
        ∀ q, Item.requested q ∈ r.toList.map Item.requested → q.position = l.position := by
    intro r hr
    refine ⟨fun u hu => ?_, fun q hq => ?_⟩
    · obtain ⟨_, _, h⟩ := List.mem_map.mp hu
      exact Item.noConfusion h
    · obtain ⟨p, hp, h⟩ := List.mem_map.mp hq
      obtain rfl := Item.requested.inj h
      exact hr p (Option.mem_toList.mp hp)
  cases d with
  | use k =>
    simp only [items]
    split
    · exact ⟨fun _ h => absurd h List.not_mem_nil, fun _ h => absurd h List.not_mem_nil⟩
    · refine ⟨fun u hu => ?_, fun q hq => Item.noConfusion (List.mem_singleton.mp hq)⟩
      obtain rfl := Item.use.inj (List.mem_singleton.mp hu)
      exact ⟨rfl, rfl⟩
  | display k => exact hrequested _ fun q => position_of_requestOf
  | output k => exact hrequested _ fun q => position_of_requestOf
  | pipe k => exact hrequested _ fun q => position_of_requestOf
  | beginRegion | endRegion | includeFile | includeCode =>
    exact ⟨fun _ h => absurd h List.not_mem_nil, fun _ h => absurd h List.not_mem_nil⟩
  | _ =>
    exact ⟨fun _ h => Item.noConfusion (List.mem_singleton.mp h), fun _ h => Item.noConfusion (List.mem_singleton.mp h)⟩

/-- A request that a line makes. -/
def LogicalLine.Makes (g : Grammar) (l : LogicalLine) (q : Request) : Prop :=
  ∃ d args, g.classify l = some (d, args) ∧ .requested q ∈ d.items args l

section Lines

variable (settings : Settings) (lib : Library) {l : LogicalLine} {c : Control}

/-- A line that includes nothing is stored, or says what its directive does. -/
theorem transcribeLine_items {i : Item} (h : i ∈ (transcribeLine settings lib Desk.idleTranscriber l c).items) :
    i = .literal l.text ∨ ∃ d args, settings.grammar.classify l = some (d, args) ∧ i ∈ d.items args l := by
  unfold transcribeLine at h
  split at h
  · unfold transcribeInside at h
    cases hd : settings.grammar.classify l with
    | none =>
      rw [hd] at h
      exact Or.inl (List.mem_singleton.mp h)
    | some a =>
      obtain ⟨d, args⟩ := a
      rw [hd] at h
      cases d with
      | beginRegion | endRegion | includeCode => exact absurd h List.not_mem_nil
      | includeFile =>
        dsimp only at h
        cases hf : fields args with
        | nil =>
          rw [hf] at h
          exact absurd h List.not_mem_nil
        | cons target rest =>
          rw [hf] at h
          dsimp only [transcribeInclude] at h
          split at h
          · exact absurd h List.not_mem_nil
          · split at h <;> exact absurd h List.not_mem_nil
      | _ => exact Or.inr ⟨_, args, rfl, h⟩
  · unfold transcribeOutside at h
    split at h
    · exact absurd h List.not_mem_nil
    · split at h
      · exact absurd h List.not_mem_nil
      · split at h
        · exact Or.inl (List.mem_singleton.mp h)
        · exact absurd h List.not_mem_nil

/-- All uses and requests of a line that includes nothing stand where the line does, and if it fails, it is cited.
Nothing waits after it that has not waited before. -/
theorem transcribeLine_cites (h : includeTarget? settings c.inRegion l = none) :
    let t := transcribeLine settings lib Desk.idleTranscriber l c
    (∀ u, .use u ∈ t.items → u.position = l.position ∧ u.directive = l.body) ∧
      (∀ q, .requested q ∈ t.items → q.position = l.position ∧ l.Makes settings.grammar q) ∧
      (∀ f, t.stop = some (.failed f) → f.Cites l) ∧ t.control.pending = c.pending := by
  refine ⟨fun u hu => ?_, fun q hq => ?_, ?_⟩
  · rcases transcribeLine_items settings lib hu with hu | ⟨d, args, _, hu⟩
    · exact nomatch hu
    · exact (d.items_position args l).1 u hu
  · rcases transcribeLine_items settings lib hq with hq | ⟨d, args, hd, hq⟩
    · exact nomatch hq
    · exact ⟨(d.items_position args l).2 q hq, d, args, hd, hq⟩
  · rcases Desk.transcribeLine_region settings lib l h with ⟨hd, ht⟩ | ⟨_, hstop, _, hcontrol⟩
    · rw [ht]
      refine ⟨fun f hf => ?_, rfl⟩
      obtain rfl := Stop.failed.inj (Option.some.inj hf)
      exact Failure.cites_delimiter (settings.grammar.body_ne_nil_of_delimiter? hd) _ _
    · exact ⟨fun f hf => (nomatch hstop.symm.trans hf), by rw [hcontrol]⟩

end Lines

/-! ## Included files -/

/-- The target of an inclusion is a name. -/
theorem ne_nil_of_includeTarget? {settings : Settings} {inRegion : Bool} {l : LogicalLine} {target : Text}
    (h : includeTarget? settings inRegion l = some target) : target ≠ [] := by
  unfold includeTarget? at h
  split at h
  · split at h
    · exact ne_nil_of_mem_fields (List.mem_of_head? h)
    · exact nomatch h
  · exact nomatch h

namespace Path

theorem clean_ne_nil (p : Text) : clean p ≠ [] := by
  unfold clean
  dsimp only
  split
  · exact List.cons_ne_nil _ _
  · split
    · decide
    · assumption

theorem joinTwo_ne_nil (dir : Text) {p : Text} (hp : p ≠ []) : joinTwo dir p ≠ [] := by
  have hmem : p ∈ [dir, p].filter (· ≠ []) := List.mem_filter.mpr ⟨by simp, by simpa using hp⟩
  unfold joinTwo joinAll
  split
  · rename_i hnil
    rw [hnil] at hmem
    exact absurd hmem List.not_mem_nil
  · exact clean_ne_nil _

end Path

theorem mem_of_mem_dropRepeats {ts : List Text} {t : Text} (h : t ∈ dropRepeats ts) : t ∈ ts := by
  induction ts using dropRepeats.induct with
  | case1 b rest ih =>
    rw [dropRepeats, if_pos rfl] at h
    exact List.mem_cons_of_mem _ (ih h)
  | case2 a b rest hab ih =>
    rw [dropRepeats, if_neg hab] at h
    rcases List.mem_cons.mp h with rfl | h
    · exact List.mem_cons_self
    · exact List.mem_cons_of_mem _ (ih h)
  | case3 rest hrest => rwa [dropRepeats] at h; exact hrest

/-- A file is never looked for under an empty name. -/
theorem candidates_ne_nil (searchPath : List Text) {target : Text} (ht : target ≠ []) (source : Text) :
    ∀ path ∈ candidates searchPath target source, path ≠ [] := by
  intro path hpath
  unfold candidates at hpath
  split at hpath
  · exact List.mem_singleton.mp hpath ▸ ht
  · rcases List.mem_cons.mp (mem_of_mem_dropRepeats hpath) with rfl | hpath
    · exact ht
    · rcases List.mem_append.mp hpath with hpath | hpath
      · split at hpath
        · exact List.mem_singleton.mp hpath ▸ Path.joinTwo_ne_nil _ ht
        · exact absurd hpath List.not_mem_nil
      · obtain ⟨dir, _, rfl⟩ := List.mem_map.mp hpath
        exact Path.joinTwo_ne_nil _ ht

theorem Session.mem_of_openFirst {lib : Library} {paths : List Text} {first : Option Text} {s t : Session} {path : Text}
    {source : Source} (h : s.openFirst lib paths first = (t, .ok (path, source))) : path ∈ paths := by
  induction paths generalizing first s with
  | nil => exact nomatch h
  | cons p ps ih =>
    unfold openFirst at h
    split at h
    · obtain ⟨_, h⟩ := Prod.mk.inj h
      obtain ⟨rfl, _⟩ := Prod.mk.inj (Except.ok.inj h)
      exact List.mem_cons_self
    · exact List.mem_cons_of_mem _ (ih h)

namespace Desk

variable {settings : Settings} {lib : Library} {l : LogicalLine} {s : Session} {pages : List Page}

/-- A line that includes a file is cited if it fails. -/
theorem enter_cites (hl : l.body ≠ []) {target : Text} {f : Failure}
    (h : (enter settings lib target l s pages).stop = some (.failed f)) : f.Cites l := by
  unfold enter at h
  split at h
  · obtain rfl := Stop.failed.inj (Option.some.inj h)
    exact Failure.cites_unreadableInclude hl _ _
  · dsimp only at h
    split at h
    · obtain rfl := Stop.failed.inj (Option.some.inj h)
      exact Failure.cites_duplicateInclude hl _ _
    · exact nomatch h

/-- A file that is put on top has a name. -/
theorem enter_ne_nil {target path : Text} (ht : target ≠ []) {source : Source}
    (h : (enter settings lib target l s pages).pages = .ofSource path source :: pages) : path ≠ [] := by
  unfold enter at h
  split at h
  · exact absurd h.symm (List.cons_ne_self _ _)
  · rename_i file _ hopen
    dsimp only at h
    split at h
    · exact absurd h.symm (List.cons_ne_self _ _)
    · obtain rfl : file = path := congrArg Page.file (List.cons.inj h).1
      exact candidates_ne_nil _ ht _ _ (Session.mem_of_openFirst hopen)

end Desk

/-! ## Where a text begins -/

namespace Desk

section Locates

variable (settings : Settings) (lib : Library) (start : Desk)

/-- A source is read under a name: it is put on the desk. -/
def Scans (file : Text) (source : Source) : Prop :=
  ∃ d below, Leads settings lib start d ∧ d.pages = .ofSource file source :: below

/-- A position is where a text begins: it is that of a line of a source that is read, and the text begins with what this
line says. -/
structure Locates (p : Position) (body : Text) : Prop where
  text : p.text = p.file ++ ":" ++ ofInt p.line
  line : ∃ source t, start.Scans settings lib p.file source ∧
    1 ≤ p.line ∧ p.line ≤ (physicalLines source.text).length ∧
    (physicalLines source.text)[p.line.toNat - 1]? = some t ∧ stem t <+: body

/-- If a failure says where it arose, then it also says which text begins there. -/
def Pinpoints (f : Failure) : Prop :=
  ∀ a ∈ f.attached, a.1 = "position" → ∃ p body, a = Attr.text "position" p.text ∧
    Attr.text "directive" body ∈ f.attached ∧ start.Locates settings lib p body

/-- A line that is read makes a request, and stands where the request says. -/
def Grounds (q : Request) : Prop :=
  ∃ d l, Leads settings lib start d ∧ d.line? = some l ∧ l.Makes settings.grammar q ∧
    start.Locates settings lib q.position l.body

/-- The lines that are left of a document are the last ones of a source that is read, and are numbered as they are
there. What is said of its end does not say where. -/
structure Sheet (page : Page) : Prop where
  named : page.file ≠ []
  lines : ∃ source k, start.Scans settings lib page.file source ∧ page.number = k + 1 ∧
    page.rest = (physicalLines source.text).drop k
  ending : ∀ f, page.ending = some (.failed f) → start.Pinpoints settings lib f

/-- All that lies on a desk, all that has been read so far, and the reason for giving up are located. -/
structure Traced (d : Desk) : Prop where
  pages : ∀ page ∈ d.pages, start.Sheet settings lib page
  pending : ∀ fragment, d.session.web.pending = some fragment →
    start.Locates settings lib fragment.position fragment.body
  web : start.session.web.Gains (fun u => start.Locates settings lib u.position u.directive)
    (start.Grounds settings lib) d.session.web
  stop : ∀ f, d.stop = some (.failed f) → start.Pinpoints settings lib f

end Locates

variable {settings : Settings} {lib : Library} {start d e : Desk}

namespace Locates

variable {p : Position} {body : Text}

theorem append (h : start.Locates settings lib p body) (more : Text) : start.Locates settings lib p (body ++ more) where
  text := h.text
  line := by
    obtain ⟨source, t, hscans, hpos, hle, ht, hstem⟩ := h.line
    exact ⟨source, t, hscans, hpos, hle, ht, hstem.trans (List.prefix_append _ _)⟩

/-- The backslash at the end of a text is no part of what its first line says. -/
theorem dropLast (h : start.Locates settings lib p body) (hends : endsWith body "\\" = true) :
    start.Locates settings lib p body.dropLast where
  text := h.text
  line := by
    obtain ⟨source, t, hscans, hpos, hle, ht, hstem⟩ := h.line
    exact ⟨source, t, hscans, hpos, hle, ht, prefix_dropLast (endsWith_stem t) hstem hends⟩

/-- A line is folded with the position of what waits for it, or with its own. -/
theorem fold {pending : Option Fragment} {position : Position} {text : Text}
    (hpending : ∀ fragment, pending = some fragment → start.Locates settings lib fragment.position fragment.body)
    (h : start.Locates settings lib position (content text)) :
    (∀ fragment, fold pending position text = .inl fragment →
      start.Locates settings lib fragment.position fragment.body) ∧
      ∀ l, fold pending position text = .inr l → start.Locates settings lib l.position l.body := by
  obtain ⟨body, p, hbody, hfold⟩ : ∃ body p, start.Locates settings lib p body ∧ Literate.fold pending position text =
      if endsWith body "\\" then .inl ⟨body.dropLast, p⟩ else .inr ⟨body, text.drop (content text).length, p⟩ := by
    cases pending with
    | none => exact ⟨_, _, h, rfl⟩
    | some fragment => exact ⟨_, _, (hpending fragment rfl).append _, rfl⟩
  rw [hfold]
  split
  · rename_i hends
    exact ⟨fun _ hf => Sum.inl.inj hf ▸ hbody.dropLast hends, fun _ hl => nomatch hl⟩
  · exact ⟨fun _ hf => (nomatch hf), fun _ hl => Sum.inr.inj hl ▸ hbody⟩

end Locates

/-- What cites a line that is located says where it stands. -/
theorem Locates.pinpoints {l : LogicalLine} (h : start.Locates settings lib l.position l.body) {f : Failure}
    (hf : f.Cites l) : start.Pinpoints settings lib f := fun a ha hkey =>
  ⟨l.position, l.body, (hf a ha hkey).1, (hf a ha hkey).2, h⟩

theorem pinpoints_of_placeless {f : Failure} (h : f.Placeless) : start.Pinpoints settings lib f := fun a ha hkey =>
  absurd hkey (h a ha)

namespace Sheet

/-- A document of which nothing was read. -/
theorem ofSource {file : Text} (hfile : file ≠ []) {source : Source} (h : start.Scans settings lib file source) :
    start.Sheet settings lib (.ofSource file source) where
  named := hfile
  lines := ⟨source, 0, h, rfl, rfl⟩
  ending f hf := by
    have hf : source.stop? file = some (.failed f) := hf
    unfold Source.stop? at hf
    split at hf
    · exact nomatch hf
    · obtain ⟨cause, _, hcause⟩ := Option.map_eq_some_iff.mp hf
      obtain rfl := Stop.failed.inj hcause
      exact pinpoints_of_placeless (Failure.placeless_of_attached rfl)

variable {file text : Text} {n : Nat} {rest : List Text} {ending : Option Stop}

theorem turn (h : start.Sheet settings lib ⟨file, n, text :: rest, ending⟩) :
    start.Sheet settings lib ⟨file, n + 1, rest, ending⟩ where
  named := h.named
  lines := by
    obtain ⟨source, k, hscans, hn, hrest⟩ := h.lines
    refine ⟨source, k + 1, hscans, congrArg (· + 1) hn, ?_⟩
    rw [← List.tail_drop]
    exact congrArg List.tail hrest
  ending := h.ending

/-- The next line stands where it is said to. -/
theorem locates (h : start.Sheet settings lib ⟨file, n, text :: rest, ending⟩) :
    start.Locates settings lib ⟨file, n⟩ (content text) where
  text := if_neg h.named
  line := by
    obtain ⟨source, k, hscans, hn, hrest⟩ := h.lines
    obtain rfl : n = k + 1 := hn
    have hline : (physicalLines source.text)[k]? = some text := by
      rw [← List.head?_drop, ← hrest]
      rfl
    obtain ⟨hk, _⟩ := List.getElem?_eq_some_iff.mp hline
    refine ⟨source, text, hscans, ?_, ?_, ?_, stem_prefix text⟩
    · show (1 : Int) ≤ ((k + 1 : Nat) : Int)
      omega
    · show ((k + 1 : Nat) : Int) ≤ ((physicalLines source.text).length : Int)
      omega
    · exact hline

end Sheet

namespace Traced

/-- A call begins with its own document. -/
theorem of_start {name : Text} (hname : name ≠ []) (source : Source) {w : Web} (hw : w.pending = none) :
    Traced settings lib (.start name source w) (.start name source w) where
  pages page hp := by
    obtain rfl := List.mem_singleton.mp hp
    exact .ofSource hname ⟨_, [], .refl, rfl⟩
  pending fragment hf := nomatch hw.symm.trans hf
  web := .of_eq rfl rfl
  stop f hf := nomatch hf

/-- A line that includes a file is left behind as it was read, and the file begins to be read, if it can be. -/
theorem enter {s : Session} {pages : List Page} (h : Traced settings lib start ⟨s, pages, none⟩) {target : Text}
    {l : LogicalLine} (hl : start.Locates settings lib l.position l.body) (hbody : l.body ≠ []) (htarget : target ≠ [])
    (hle : Leads settings lib start (enter settings lib target l s pages)) :
    Traced settings lib start (enter settings lib target l s pages) := by
  rcases enter_cases settings lib target l s pages with ⟨stop, hstop, _, hp, hw⟩ | ⟨path, source, _, _, hstop, hp, hw⟩
  · refine ⟨by rw [hp]; exact h.pages, by rw [hw]; exact h.pending, by rw [hw]; exact h.web, fun f hf => ?_⟩
    exact hl.pinpoints (enter_cites hbody hf)
  · refine ⟨fun page hm => ?_, by rw [hw]; exact h.pending, ?_, by rw [hstop]; exact fun _ hf => nomatch hf⟩
    · rw [hp] at hm
      rcases List.mem_cons.mp hm with rfl | hm
      · exact .ofSource (enter_ne_nil htarget hp) ⟨_, pages, hle, hp⟩
      · exact h.pages page hm
    · rw [hw]
      exact ⟨h.web.elements, h.web.queue⟩

/-- A logical line that is located keeps everything located. -/
theorem readLine {s : Session} {pages : List Page} (h : Traced settings lib start ⟨s, pages, none⟩)
    (hl : Leads settings lib start d) {l : LogicalLine} (hline : d.line? = some l)
    (hlocated : start.Locates settings lib l.position l.body)
    (hle : Leads settings lib start (readLine settings lib l s pages)) :
    Traced settings lib start (readLine settings lib l s pages) := by
  unfold Desk.readLine at hle ⊢
  cases ht : includeTarget? settings s.web.inRegion l with
  | some target =>
    rw [ht] at hle
    have htarget : target ≠ [] := ne_nil_of_includeTarget? ht
    exact enter (s := s.log .trace "directive"
      [Attr.text "keyword" Directive.includeFile.label, Attr.text "position" l.position.text])
      ⟨h.pages, h.pending, h.web, h.stop⟩ hlocated (Grammar.body_ne_nil_of_includes ht) htarget hle
  | none =>
    have hscan : Transcribes _ _ (scanLine settings lib idle l s) := line_transcribes idle_transcribed l s
    obtain ⟨huses, hrequests, hfails, hpending⟩ := transcribeLine_cites settings lib (c := s.web.control) ht
    refine ⟨h.pages, fun fragment hf => h.pending fragment ?_, ?_, fun f hf => ?_⟩
    · have hcontrol := congrArg Control.pending hscan.control
      exact (hcontrol.trans hpending).symm.trans hf
    · show start.session.web.Gains _ _ (scanLine settings lib idle l s).1.web
      rw [hscan.1]
      have hgrown := Web.Gains.replay s.web
        (P := fun u => start.Locates settings lib u.position u.directive) (Q := start.Grounds settings lib)
        (fun u hu => by
          obtain ⟨hposition, hdirective⟩ := huses u hu
          rw [hposition, hdirective]
          exact hlocated)
        (fun q hq => by
          obtain ⟨hposition, hmakes⟩ := hrequests q hq
          exact ⟨d, l, hl, hline, hmakes, hposition ▸ hlocated⟩)
      exact h.web.trans ⟨hgrown.elements, hgrown.queue⟩
    · exact hlocated.pinpoints (hfails f (hscan.2.symm.trans hf))

/-- **Every step keeps everything located.** -/
theorem step (h : Traced settings lib start d) (hl : Leads settings lib start d) (hs : step? settings lib d = some e) :
    Traced settings lib start e := by
  have hle := hl.tail hs
  rcases step?_cases hs with ⟨page, below, stop, hp, rfl, hstop⟩ |
    ⟨file, n, text, rest, ending, below, hp, hgo, hread⟩
  · refine ⟨fun q hq => h.pages q (hp ▸ List.mem_cons_of_mem _ hq), h.pending, ⟨h.web.elements, h.web.queue⟩,
      fun f hf => ?_⟩
    rcases hstop with ⟨_, _, rfl⟩ | rfl
    · exact (h.pages page (hp ▸ List.mem_cons_self)).ending f hf
    · exact h.stop f hf
  · have hpage := h.pages _ (hp ▸ List.mem_cons_self)
    have hpages : ∀ q ∈ (⟨file, n + 1, rest, ending⟩ : Page) :: below, start.Sheet settings lib q := by
      intro q hq
      rcases List.mem_cons.mp hq with rfl | hq
      · exact hpage.turn
      · exact h.pages q (hp ▸ List.mem_cons_of_mem _ hq)
    obtain ⟨hfragment, hlocated⟩ := Locates.fold h.pending hpage.locates
    rcases hread with ⟨fragment, hfold, rfl⟩ | ⟨l, hfold, hline, rfl⟩
    · exact ⟨hpages, fun x hx => Option.some.inj hx ▸ hfragment fragment hfold, ⟨h.web.elements, h.web.queue⟩,
        fun f hf => nomatch hf⟩
    · have hrest : Traced settings lib start ⟨d.session.modify fun w => { w with pending := none },
          ⟨file, n + 1, rest, ending⟩ :: below, none⟩ :=
        ⟨hpages, fun _ hx => (nomatch hx), ⟨h.web.elements, h.web.queue⟩, fun _ hf => nomatch hf⟩
      exact hrest.readLine hl hline (hlocated l hfold) hle

/-- So it does at every moment of a call. -/
theorem leads (h : Traced settings lib start start) (hl : Leads settings lib start d) :
    Traced settings lib start d := by
  induction hl with
  | refl => exact h
  | tail hl hs ih => exact ih.step hl hs

end Traced

end Desk

/-! ## Calls -/

/-- Everything that a call has recorded besides what was there is located, as seen from the desk on which it began, and
so is its failure, if it fails. -/
structure Outcome.Located (settings : Settings) (lib : Library) (start : Desk) (w : Web) (o : Outcome) : Prop where
  web : w.Gains (fun u => start.Locates settings lib u.position u.directive) (start.Grounds settings lib) o.1.web
  failure : ∀ f, o.2 = some (.failed f) → start.Pinpoints settings lib f

namespace Web

variable (settings : Settings) {lib : Library} (hlib : lib.Bounded)
include hlib

/-- A source that is read as the next part of a document, by a call that may do nothing of the kind. -/
theorem parse_located (live : Bool) {name : Text} (hname : name ≠ []) (source : Source) {w : Web}
    (hw : w.pending = none) :
    Outcome.Located settings lib (.start name source w) w (w.parse settings lib live name source) := by
  cases hx : w.expanded with
  | true =>
    refine ⟨by rw [parse_web_of_expanded settings lib live name source hx]; exact .of_eq rfl rfl, fun f hf => ?_⟩
    obtain rfl := Stop.failed.inj (Option.some.inj ((parse_of_expanded settings lib live name source hx).symm.trans hf))
    exact Desk.pinpoints_of_placeless (Failure.placeless_of_attached rfl)
  | false =>
    cases live with
    | false =>
      obtain ⟨hweb, hstop⟩ := parse_transcribes settings lib false name source hx
      exact ⟨by rw [hweb]; exact .of_eq rfl rfl, fun f hf => nomatch hstop.symm.trans hf⟩
    | true =>
      obtain ⟨names, hnames, hlimit⟩ := hlib
      obtain ⟨s, hs, hleads⟩ := parse_leads settings hnames hlimit name source hx
      have htraced := (Desk.Traced.of_start hname source hw).leads hleads
      exact ⟨by rw [← hs]; exact ⟨htraced.web.elements, htraced.web.queue⟩, htraced.stop⟩

/-- **Positions are right.** A call that reads a document, or a file, into a web in which nothing waits adds elements
and requests behind those that are there. The position of each use among them, of each of these requests, and of a
failure with which the call ends, is that of a line of a source that was read in the call, under the name of this source;
and the directive begins with what this line says. If the file cannot be opened, nothing is added, and the failure has no
position. -/
theorem parse_locates (live : Bool) {name : Text} (hname : name ≠ []) {w : Web} (hw : w.pending = none) :
    (∀ source, Outcome.Located settings lib (.start name source w) w (w.parse settings lib live name source)) ∧
      match lib.read name with
      | .ok source => Outcome.Located settings lib (.start name source w) w (w.parseFile settings lib live name)
      | .error _ => (w.parseFile settings lib live name).1.web = w ∧
          ∀ f, (w.parseFile settings lib live name).2 = some (.failed f) → f.Placeless := by
  refine ⟨fun source => parse_located settings hlib live hname source hw, ?_⟩
  have hweb := parseFile_web settings lib live name w
  have hstop := parseFile_stop settings lib live name w
  cases hread : lib.read name with
  | ok source =>
    rw [hread] at hweb hstop
    have hparse := parse_located settings hlib live hname source hw
    exact ⟨by rw [hweb]; exact hparse.web, fun f hf => hparse.failure f (hstop.symm.trans hf)⟩
  | error e =>
    rw [hread] at hweb hstop
    refine ⟨hweb, fun f hf => ?_⟩
    obtain rfl := Stop.failed.inj (Option.some.inj (hstop.symm.trans hf))
    exact Failure.placeless_of_attached rfl

omit hlib

/-- A file that ends while a directive goes on. -/
def brokenOff : Source := { text := "=begin litweb\n=use_chunk\\\n" }

/-- A document that includes the file, goes on with the directive, makes a request, and begins its region again. -/
def takenUp : Source :=
  { text := "=begin litweb\n=begin_chunk t\n=include b\n c\n=output_chunk t f\n=begin litweb\n" }

/-- The use stands where it begins, in the included file; the request and the failure stand in the document. -/
theorem parse_locates_takenUp :
    let lib := Library.ofList [("b", brokenOff)]
    let o := Web.empty.parse .standard lib true "a" takenUp
    let start := Desk.start "a" takenUp .empty
    lib.Bounded ∧ ("a" : Text) ≠ [] ∧ Web.empty.pending = none ∧
      (∃ u, o.1.web.repository.elements ⟨.chunk, "t"⟩ = [.use u] ∧ u.position = ⟨"b", 2⟩ ∧
        u.directive = "=use_chunk c" ∧ start.Locates .standard lib u.position u.directive) ∧
      (∃ q, o.1.web.queue.toList = [q] ∧ q.position = ⟨"a", 5⟩ ∧ start.Grounds .standard lib q) ∧
      ∃ f, o.2 = some (.failed f) ∧ f.hasFault .regionNested ∧ start.Pinpoints .standard lib f := by
  intro lib o start
  have hlib : lib.Bounded := ⟨_, Library.opens_ofList _, Library.card_le_ofList _⟩
  have hname : ("a" : Text) ≠ [] := by decide
  obtain ⟨hparse, _⟩ := parse_locates .standard hlib true hname (w := .empty) rfl
  obtain ⟨⟨helements, hqueue⟩, hfailure⟩ := hparse takenUp
  obtain ⟨f, hstop, hfault⟩ := eq_failed_of_hasFailedWith
    (show hasFailedWith .regionNested o.2 by decide)
  let u : Use := ⟨.chunk, ["c"], "=use_chunk c", ⟨"b", 2⟩⟩
  let q : Request := ⟨.output, ⟨.chunk, "t"⟩, "f", .directive, ⟨"a", 5⟩⟩
  have hu : o.1.web.repository.elements ⟨.chunk, "t"⟩ = [.use u] := by decide
  have hq : o.1.web.queue.toList = [q] := by decide
  refine ⟨hlib, hname, rfl, ⟨u, hu, rfl, rfl, ?_⟩, ⟨q, hq, rfl, ?_⟩, f, hstop, hfault, hfailure f hstop⟩
  · -- nothing was there before
    obtain ⟨more, hmore, hlocates⟩ := helements ⟨.chunk, "t"⟩
    obtain rfl : [.use u] = more := hu.symm.trans hmore
    exact hlocates u List.mem_cons_self
  · obtain ⟨more, hmore, hgrounds⟩ := hqueue
    obtain rfl : [q] = more := hq.symm.trans hmore
    exact hgrounds q List.mem_cons_self

end Web

end Literate
