import Literate.Proofs.PhysicalLines
import Literate.Proofs.Unambiguity
import Literate.Proofs.Agenda
import Literate.Proofs.FanOut
import Literate.Proofs.Cycles
import Literate.Proofs.Meaning

/-!
# Lines that are captured as they stand

What a document says about the one chunk that is open in it may be nothing but lines. Then the chunk has their text,
byte for byte (`captures_of_transcript`), since it received the lines in their order (`received_collecting`) and
mentions nothing.

* A line that the print directive prints is never taken for anything else: the line is one directive at most, and where
  the text to be printed ends, the physical line does (`transcribePhysical_printLine`). So printing undoes itself
  (`captures_printing`).
* Lines that are no directives are captured inside of a region, and lines that delimit no region are captured outside
  where code is to be included (`captures_verbatim`).
-/

namespace Literate

open Text

/-! ## A chunk that receives lines only -/

/-- The items of a document that opens the chunk `c` and stores lines. -/
def collecting (texts : List Text) : List Item := .opened .chunk ["c"] :: texts.map .literal

section Collecting

variable (texts : List Text)

theorem collecting_snoc (t : Text) : collecting (texts ++ [t]) = collecting texts ++ [.literal t] := by
  unfold collecting
  rw [List.map_append, List.map_singleton, List.cons_append]

theorem literals_collecting : literals (collecting texts) = texts := by
  induction texts using List.reverseRecOn with
  | nil => rfl
  | append_singleton texts t ih =>
    rw [collecting_snoc, literals_snoc, ih]
    rfl

theorem mentions_collecting (k : Kind) : mentions k (collecting texts) = Item.begun k (.opened .chunk ["c"]) := by
  induction texts using List.reverseRecOn with
  | nil => exact List.append_nil _
  | append_singleton texts t ih =>
    rw [collecting_snoc, mentions_snoc, ih]
    exact List.append_nil _

theorem isOpenAfter_collecting : isOpenAfter ⟨.chunk, "c"⟩ (collecting texts) = true := by
  induction texts using List.reverseRecOn with
  | nil => decide
  | append_singleton texts t ih =>
    rw [collecting_snoc, isOpenAfter_snoc]
    exact ih

/-- The chunk receives every line, in the order in which they are stored. -/
theorem received_collecting :
    received ⟨.chunk, "c"⟩ (collecting texts) = (List.range texts.length).map .line := by
  induction texts using List.reverseRecOn with
  | nil => decide
  | append_singleton texts t ih =>
    have hline : Item.element? (collecting texts) (.literal t) = some (.line texts.length) := by
      rw [Item.element?, literals_collecting]
    rw [collecting_snoc, received_snoc, ih, if_pos (isOpenAfter_collecting texts), hline, List.length_append,
      List.length_singleton, List.range_succ, List.map_append]
    rfl

theorem request?_collecting : (collecting texts).filterMap Item.request? = [] := by
  refine List.filterMap_eq_nil_iff.mpr fun i hi => ?_
  rcases List.mem_cons.mp hi with rfl | hi
  · rfl
  · obtain ⟨t, _, rfl⟩ := List.mem_map.mp hi
    rfl

/-- Lines only mean themselves. -/
theorem flattens_lines (r : Repository) (is : List Nat) : Flattens r (piecesOf (is.map .line)) is := by
  induction is with
  | nil => exact .nil
  | cons i is ih => exact .line ih

/-- The text of all stored lines. -/
theorem textOf_range {lines : Array Text} (h : lines.toList = texts) :
    textOf lines (List.range texts.length) = texts.flatten := by
  subst h
  unfold textOf
  congr 1
  refine List.ext_getElem (by simp) fun i hi hi' => ?_
  simp at hi
  simp [hi]

end Collecting

/-- A web that holds a chunk of lines and nothing else. -/
structure Collects (texts : List Text) (w : Web) : Prop where
  fresh : w.Fresh
  lines : w.lines.toList = texts
  refs : w.repository.refs = [⟨.chunk, "c"⟩]
  queue : w.queue = #[]
  entity : w.repository.find? ⟨.chunk, "c"⟩ = some ⟨((List.range texts.length).map .line).toArray, false⟩

/-- What lines make of an empty web. -/
theorem collects_replay (texts : List Text) (c : Control) :
    Collects texts ((Web.empty.replay (collecting texts)).under c) := by
  have hrecords : Records (collecting texts) (Web.empty.replay (collecting texts)) := Records.empty.replay _
  have hfresh := Web.fresh_empty.replay (collecting texts)
  have hnames : ∀ k, (Web.empty.replay (collecting texts)).repository.names k =
      (Item.begun k (.opened .chunk ["c"])).eraseDups := fun k => by
    rw [hrecords.names, mentions_collecting]
  refine ⟨⟨hfresh.sound.under c, hfresh.expanded, hfresh.unresolved⟩, ?_, ?_, ?_, ?_⟩
  · exact hrecords.lines.trans (literals_collecting texts)
  · show (Web.empty.replay (collecting texts)).repository.refs = _
    rw [Repository.refs, hnames, hnames]
    decide
  · have hqueue := Web.queue_replay .empty (collecting texts)
    rw [request?_collecting] at hqueue
    exact hqueue
  · have hentity := hrecords.entity ⟨.chunk, "c"⟩
    rw [if_pos (by rw [mentions_collecting]; decide), received_collecting] at hentity
    exact hentity

namespace Collects

variable {texts : List Text} {w : Web} (h : Collects texts w)
include h

/-- Lines mention nothing. -/
theorem not_mentions (a b : Ref) : ¬ w.repository.Mentions a b := by
  rintro ⟨e, he, u, hu, -⟩
  have ha : a ∈ w.repository.refs := (Repository.mem_refs_iff _ a).mpr (by rw [he]; rfl)
  rw [h.refs, List.mem_singleton] at ha
  subst ha
  obtain rfl := Option.some.inj (he.symm.trans h.entity)
  obtain ⟨i, -, hi⟩ := List.mem_map.mp hu
  cases hi

theorem expandAll_succeeds {settings : Settings} (hdepth : 0 < settings.maxDepth) :
    (w.expandAll settings none).2 = none := by
  have hone : (w.repository.refs.length : Int) ≤ settings.maxDepth := by
    rw [h.refs, List.length_singleton]
    omega
  refine (h.fresh.succeeds_iff hone).mpr ⟨fun a b hm => absurd hm (h.not_mentions a b), fun a hcycle => ?_⟩
  obtain ⟨b, hm, -⟩ := Relation.TransGen.head'_iff.mp hcycle
  exact h.not_mentions a b hm

/-- The text of the chunk is that of the lines. -/
theorem render_expandAll {settings : Settings} (hdepth : 0 < settings.maxDepth) :
    (w.expandAll settings none).1.web.render ⟨.chunk, "c"⟩ = .ok texts.flatten := by
  have hflattens : Flattens w.repository
      (Entity.pieces ⟨((List.range texts.length).map .line).toArray, false⟩) (List.range texts.length) :=
    flattens_lines _ _
  rw [h.fresh.rendered (h.expandAll_succeeds hdepth) h.entity hflattens, textOf_range texts h.lines]

end Collects

/-! ## Documents whose chunk has a text -/

/-- A document, read into an empty web under a name, has this text: it is read and expanded without a failure, the text
of the chunk `c` is this one, nothing else is defined, and nothing is requested. -/
structure Captures (settings : Settings) (lib : Library) (name document text : Text) : Prop where
  read : (Web.empty.parse settings lib true name { text := document }).2 = none
  only : (Web.empty.parse settings lib true name { text := document }).1.web.repository.refs = [⟨.chunk, "c"⟩]
  unrequested : (Web.empty.parse settings lib true name { text := document }).1.web.queue = #[]
  expanded : ((Web.empty.parse settings lib true name { text := document }).1.web.expandAll settings none).2 = none
  rendered : ((Web.empty.parse settings lib true name { text := document }).1.web.expandAll settings none).1.web.render
    ⟨.chunk, "c"⟩ = .ok text

/-- A document has the text of the lines that it collects. -/
theorem captures_of_transcript {settings : Settings} {lib : Library} {name document : Text} {c : Control}
    {texts : List Text} (hdepth : 0 < settings.maxDepth)
    (h : transcribeText settings lib name document {} = ⟨c, collecting texts, none⟩) :
    Captures settings lib name document texts.flatten := by
  have hread := parse_text_transcribes settings lib name (w := .empty) rfl document
  rw [show Web.empty.control = {} from rfl, h] at hread
  obtain ⟨hweb, hstop⟩ := hread
  have hcollects : Collects texts (Web.empty.parse settings lib true name { text := document }).1.web := by
    rw [hweb]
    exact collects_replay texts _
  exact ⟨hstop, hcollects.refs, hcollects.queue, hcollects.expandAll_succeeds hdepth, hcollects.render_expandAll hdepth⟩

/-! ## The lines of these documents -/

namespace Grammar

variable (g : Grammar)

/-- The line that begins a region. -/
def openLine : Text := g.marker ++ "begin litweb"

/-- The line that ends it. -/
def closeLine : Text := g.marker ++ "end litweb"

/-- The line that begins a chunk. -/
def chunkLine : Text := g.marker ++ "begin_chunk c"

/-- The line after which code is included. -/
def codeLine : Text := g.marker ++ "include_code"

/-- The line that prints a text. -/
def printLine (t : Text) : Text := g.marker ++ "print " ++ t

/-- How the documents begin: a region is open, and in it a chunk. -/
def opening : Text := g.openLine.asLine ++ g.chunkLine.asLine

/-- A document that prints texts, one by one. -/
def printing (ls : List Text) : Text := g.opening ++ (ls.map g.printLine).flatten

/-- A document that has a text inside of its region. -/
def within (t : Text) : Text := g.opening ++ t

/-- A document that has a text outside of its region, where code is included. -/
def beside (t : Text) : Text := g.opening ++ (g.codeLine.asLine ++ g.closeLine.asLine) ++ t

/-- What stands after the marker is found, if it begins with an ASCII byte. -/
theorem dropMarker?_marker {t : Text} (ht : t.head?.any (· < 0x80) = true) :
    g.dropMarker? (g.marker ++ t) = some t := by
  cases t with
  | nil => cases ht
  | cons a rest => exact g.dropMarker?_append (by simpa using ht) rest

/-- A keyword is looked for after the marker. -/
theorem keyword?_marker {t : Text} (ht : t.head?.any (· < 0x80) = true) (words : List Text) :
    g.keyword? words (g.marker ++ t) = (dropWords? words t).bind fun rest =>
      if isDetached rest then some (trimBlank rest) else none := by
  rw [keyword?, g.dropMarker?_marker ht]
  rfl

theorem isRegion_marker {verb t tag : Text} (ht : t.head?.any (· < 0x80) = true) (b : UInt8) (more : Text)
    (hverb : dropFold? (chars verb) t = some (b :: more)) (hjoin : (isJoiner b || b == byte ' ') = true)
    (htag : tag ∈ g.tags) (hmore : dropFold? (chars tag) more = some []) : g.isRegion verb (g.marker ++ t) = true := by
  cases t with
  | nil => cases ht
  | cons a rest => exact g.isRegion_of_tag (by simpa using ht) b more hverb hjoin htag hmore

theorem isBegin_openLine (h : ("litweb" : Text) ∈ g.tags) : g.isBegin g.openLine = true :=
  g.isRegion_marker (by decide) 32 "litweb" (by decide) rfl h (by decide)

theorem isEnd_closeLine (h : ("litweb" : Text) ∈ g.tags) : g.isEnd g.closeLine = true :=
  g.isRegion_marker (by decide) 32 "litweb" (by decide) rfl h (by decide)

theorem keyword?_chunkLine : g.keyword? (Directive.beginGroup .chunk).words g.chunkLine = some ("c" : Text) := by
  rw [chunkLine, g.keyword?_marker (by decide)]
  decide

theorem keyword?_codeLine : g.keyword? Directive.includeCode.words g.codeLine = some [] := by
  rw [codeLine, g.keyword?_marker (by decide)]
  decide

theorem printLine_eq (t : Text) : g.printLine t = g.marker ++ ofString "print" ++ [32] ++ t := by
  have hprint : ofString "print " = ofString "print" ++ [32] := by decide
  rw [printLine, hprint, ← List.append_assoc]

/-- What a line prints is all that follows the blank after the directive. -/
theorem printed?_printLine (t : Text) : g.printed? (g.printLine t) = some t := by
  have hhead : (ofString "print" ++ 32 :: t).head?.any (· < 0x80) = true := by
    have hprint : ofString "print" = [112, 114, 105, 110, 116] := by decide
    rw [hprint]
    rfl
  rw [printLine_eq, List.append_assoc, List.append_assoc, List.singleton_append, printed?, g.dropMarker?_marker hhead,
    Option.bind_some, dropFold?_append (by decide), Option.bind_some]
  rfl

/-- What settings that were checked say of their grammar. -/
structure Checked (g : Grammar) : Prop where
  spaceless : hasSpace g.marker = false
  litweb : ("litweb" : Text) ∈ g.tags
  tags : ∀ tag ∈ g.tags, isTag tag = true

variable {g : Grammar}

theorem Checked.classify (h : g.Checked) {d : Directive} {l : LogicalLine} {args : Text}
    (hd : g.match? d l = some args) : g.classify l = some (d, args) :=
  (classifyBy_eq_some_iff h.tags).mpr ⟨d.mem_table, hd⟩

/-- Every line that begins with the marker and ends in a letter is a content. -/
theorem Checked.isContent (h : g.Checked) {t : Text} (ht : byte '\n' ∉ t) {b : UInt8} (hb : t.getLast? = some b)
    (hend : isLineEnd b = false) (hslash : b ≠ byte '\\') : (g.marker ++ t).IsContent :=
  isContent_marker h.spaceless ⟨ht, b, hb, hend, hslash⟩

theorem Checked.not_mem_marker (h : g.Checked) : byte '\n' ∉ g.marker := fun hm =>
  absurd (isBlank_of_mem h.spaceless hm) (by decide)

/-- Lines may be printed one by one: what is printed ends where its line does. -/
theorem Checked.areLines_printLine (h : g.Checked) {ls : List Text} (hl : AreLines ls) :
    AreLines (ls.map g.printLine) where
  inside := by
    intro u hu
    obtain ⟨t, ht, rfl⟩ := List.mem_map.mp hu
    have hprint : byte '\n' ∉ ofString "print " := by decide
    have hbegin : byte '\n' ∉ g.marker ++ ofString "print " := fun hm =>
      (List.mem_append.mp hm).elim h.not_mem_marker hprint
    cases t with
    | nil => exact fun hm => hbegin (List.mem_of_mem_dropLast (by rw [printLine, List.append_nil] at hm; exact hm))
    | cons b rest =>
      rw [printLine, List.dropLast_append_of_ne_nil (List.cons_ne_nil b rest)]
      exact fun hm => (List.mem_append.mp hm).elim hbegin (hl.inside _ ht)
  ended := by
    intro u hu
    rw [← List.map_dropLast] at hu
    obtain ⟨t, ht, rfl⟩ := List.mem_map.mp hu
    have hlast := hl.ended t ht
    rw [printLine, List.getLast?_append, hlast]
    rfl

theorem printLine_ne_nil (t : Text) : g.printLine t ≠ [] := by
  have hprint : ofString "print " ≠ [] := by decide
  exact List.append_ne_nil_of_left_ne_nil (List.append_ne_nil_of_right_ne_nil _ hprint) t

end Grammar

theorem Settings.checked_of_make {marker : Text} {tags searchPath : List Text} {maxDepth : Int} {settings : Settings}
    (h : Settings.make marker tags searchPath maxDepth = .ok settings) :
    settings.grammar.Checked ∧ settings.maxDepth = maxDepth := by
  have hgrammar := Settings.make_grammar h
  have htags := Settings.isTag_of_make h
  obtain ⟨-, -, rfl⟩ := Settings.of_make h
  have hlitweb : ("litweb" : Text) ∈ defaultTags := List.mem_cons_of_mem _ List.mem_cons_self
  exact ⟨⟨hgrammar.1, List.mem_append_left _ hlitweb, htags⟩, rfl⟩

section Lines

variable {settings : Settings} (lib : Library) (read : Transcriber) {c : Control}
variable (h : settings.grammar.Checked)
include h

theorem transcribeLine_openLine (terminator : Text) (position : Position) (hc : c.inRegion = false) :
    transcribeLine settings lib read ⟨settings.grammar.openLine, terminator, position⟩ c =
      ⟨{ c with inRegion := true, includeCode := false }, [], none⟩ := by
  rw [transcribeLine, if_neg (by rw [hc]; exact Bool.false_ne_true), transcribeOutside,
    if_pos (settings.grammar.isBegin_openLine h.litweb)]

theorem transcribeLine_closeLine (terminator : Text) (position : Position) (hc : c.inRegion = true) :
    transcribeLine settings lib read ⟨settings.grammar.closeLine, terminator, position⟩ c =
      ⟨{ c with inRegion := false }, [], none⟩ := by
  have hmatch : settings.grammar.match? .endRegion ⟨settings.grammar.closeLine, terminator, position⟩ = some [] :=
    if_pos (settings.grammar.isEnd_closeLine h.litweb)
  rw [transcribeLine, if_pos hc, transcribeInside, h.classify hmatch]

theorem transcribeLine_chunkLine (terminator : Text) (position : Position) (hc : c.inRegion = true) :
    transcribeLine settings lib read ⟨settings.grammar.chunkLine, terminator, position⟩ c =
      ⟨c, [.opened .chunk ["c"]], none⟩ := by
  have hmatch : settings.grammar.match? (.beginGroup .chunk) ⟨settings.grammar.chunkLine, terminator, position⟩ =
      some ("c" : Text) := settings.grammar.keyword?_chunkLine
  have hfields : fields ("c" : Text) = [("c" : Text)] := by decide
  rw [transcribeLine, if_pos hc, transcribeInside, h.classify hmatch]
  dsimp only [Directive.items]
  rw [hfields]

theorem transcribeLine_codeLine (terminator : Text) (position : Position) (hc : c.inRegion = true) :
    transcribeLine settings lib read ⟨settings.grammar.codeLine, terminator, position⟩ c =
      ⟨{ c with includeCode := true }, [], none⟩ := by
  have hmatch : settings.grammar.match? .includeCode ⟨settings.grammar.codeLine, terminator, position⟩ = some [] :=
    settings.grammar.keyword?_codeLine
  rw [transcribeLine, if_pos hc, transcribeInside, h.classify hmatch]

omit h in
/-- A physical line that does not go on is transcribed as the logical line that it is. -/
theorem transcribePhysical_of_complete (position : Position) {t : Text} (ht : goesOn t = false)
    (hc : c.pending = none) :
    transcribePhysical settings lib read position t c =
      transcribeLine settings lib read (.ofPhysical position t) c := by
  obtain ⟨inRegion, includeCode, pending, chain⟩ := c
  obtain rfl : pending = none := hc
  rw [transcribePhysical, fold_of_complete position ht]

/-- A line that prints a text stores it, whatever the text is. -/
theorem transcribePhysical_printLine (position : Position) {t : Text} (ht : goesOn t = false)
    (hpending : c.pending = none) (hc : c.inRegion = true) :
    transcribePhysical settings lib read position (settings.grammar.printLine t) c = ⟨c, [.literal t], none⟩ := by
  have hgoes : goesOn (settings.grammar.printLine t) = false := by
    rw [Grammar.printLine_eq, goesOn_append (by decide) (by decide), ht]
  have hmatch : settings.grammar.match? .print (.ofPhysical position (settings.grammar.printLine t)) = some t := by
    rw [Grammar.match?, LogicalLine.text_ofPhysical]
    exact settings.grammar.printed?_printLine t
  rw [transcribePhysical_of_complete lib read position hgoes hpending, transcribeLine, if_pos hc, transcribeInside,
    h.classify hmatch]
  rfl

omit h in
/-- A line that is no directive is stored inside of a region. -/
theorem transcribePhysical_inside (position : Position) {t : Text} (ht : goesOn t = false)
    (hpending : c.pending = none) (hc : c.inRegion = true)
    (hmatch : ∀ d ∈ Directive.table, settings.grammar.match? d (.ofPhysical .zero t) = none) :
    transcribePhysical settings lib read position t c = ⟨c, [.literal t], none⟩ := by
  have hclassify : settings.grammar.classify (.ofPhysical position t) = none := by
    refine List.findSome?_eq_none_iff.mpr fun d hd => ?_
    -- a line is a directive wherever it stands
    have hd : settings.grammar.match? d (.ofPhysical position t) = none := (hmatch d hd ▸ by cases d <;> rfl)
    rw [hd]
    rfl
  rw [transcribePhysical_of_complete lib read position ht hpending, transcribeLine, if_pos hc, transcribeInside,
    hclassify, LogicalLine.text_ofPhysical]

omit h in
/-- A line that delimits no region is stored outside of a region where code is included. -/
theorem transcribePhysical_outside (position : Position) {t : Text} (ht : goesOn t = false)
    (hpending : c.pending = none) (hc : c.inRegion = false) (hcode : c.includeCode = true)
    (hdelimiter : settings.grammar.delimiter? (.ofPhysical .zero t) = none) :
    transcribePhysical settings lib read position t c = ⟨c, [.literal t], none⟩ := by
  have hline : settings.grammar.delimiter? (.ofPhysical position t) = none := hdelimiter
  rw [transcribePhysical_of_complete lib read position ht hpending, transcribeLine_outside lib read hc hline,
    if_pos hcode, LogicalLine.text_ofPhysical]

omit h in
/-- Lines of which each stores a text store these texts. -/
theorem transcribeLines_literals (file : Text) (line : Text → Text) {texts : List Text}
    (hall : ∀ position, ∀ t ∈ texts,
      transcribePhysical settings lib read position (line t) c = ⟨c, [.literal t], none⟩) (n : Nat) :
    transcribeLines settings lib read file n (texts.map line) c = ⟨c, texts.map .literal, none⟩ := by
  induction texts generalizing n with
  | nil => rfl
  | cons t rest ih =>
    rw [List.map_cons, transcribeLines, hall _ t List.mem_cons_self, Transcript.andThen_of_none rfl]
    dsimp only
    rw [ih (fun position u hu => hall position u (List.mem_cons_of_mem _ hu))]
    rfl

end Lines

/-! ## Texts that are captured -/

section Documents

variable {settings : Settings} (lib : Library) (name : Text) (h : settings.grammar.Checked)
include h

/-- After the opening a region is open, and in it the chunk. -/
theorem transcribeText_opening (more : Text) :
    transcribeText settings lib name (settings.grammar.opening ++ more) {} =
      Transcript.andThen ⟨{ inRegion := true, chain := [Path.clean name] }, [.opened .chunk ["c"]], none⟩
        (transcribeLines settings lib (transcribeSource settings lib lib.limit) name 3 (physicalLines more)) := by
  have hopen : settings.grammar.openLine.IsContent :=
    h.isContent (by decide) (b := byte 'b') (by decide) rfl (by decide)
  have hchunk : settings.grammar.chunkLine.IsContent :=
    h.isContent (by decide) (b := byte 'c') (by decide) rfl (by decide)
  rw [transcribeText, Grammar.opening, List.append_assoc, physicalLines_append (isWhole_asLine _),
    physicalLines_append (isWhole_asLine _), transcribeLines_asLine lib _ settings hopen _ _ _ rfl,
    transcribeLine_openLine lib _ h _ _ rfl, Transcript.andThen_of_none rfl,
    transcribeLines_asLine lib _ settings hchunk _ _ _ rfl, transcribeLine_chunkLine lib _ h _ _ rfl]
  rfl

/-- Lines after the opening that store texts make a document that has these texts. -/
theorem captures_of_lines {document : Text} {texts : List Text} {c : Control} (hdepth : 0 < settings.maxDepth)
    (hlines : transcribeLines settings lib (transcribeSource settings lib lib.limit) name 3 (physicalLines document)
      { inRegion := true, chain := [Path.clean name] } = ⟨c, texts.map .literal, none⟩) :
    Captures settings lib name (settings.grammar.opening ++ document) texts.flatten := by
  refine captures_of_transcript (c := c) hdepth ?_
  rw [transcribeText_opening lib name h, Transcript.andThen_of_none rfl, hlines]
  rfl

/-- After the region is over, code is included. -/
theorem transcribeLines_codeLine (more : Text) (n : Nat) (read : Transcriber) :
    transcribeLines settings lib read name n
        (physicalLines (settings.grammar.codeLine.asLine ++ settings.grammar.closeLine.asLine ++ more))
        { inRegion := true, chain := [Path.clean name] } =
      transcribeLines settings lib read name (n + 2) (physicalLines more)
        { includeCode := true, chain := [Path.clean name] } := by
  have hcode : settings.grammar.codeLine.IsContent :=
    h.isContent (by decide) (b := byte 'e') (by decide) rfl (by decide)
  have hclose : settings.grammar.closeLine.IsContent :=
    h.isContent (by decide) (b := byte 'b') (by decide) rfl (by decide)
  rw [List.append_assoc, physicalLines_append (isWhole_asLine _),
    physicalLines_append (isWhole_asLine _), transcribeLines_asLine lib _ settings hcode _ _ _ rfl,
    transcribeLine_codeLine lib _ h _ _ rfl, Transcript.andThen_of_none rfl,
    transcribeLines_asLine lib _ settings hclose _ _ _ rfl, transcribeLine_closeLine lib _ h _ _ rfl,
    Transcript.andThen_of_none rfl]
  rfl

end Documents

section Settings

variable {marker : Text} {tags searchPath : List Text} {maxDepth : Int} {settings : Settings}

/-- **Printing undoes itself.** The marker and the tags were checked, and some depth is allowed. Lines of any bytes, none
of which goes on in the next, are printed one by one. Then the text of the chunk is that of the lines. -/
theorem captures_printing (hmake : Settings.make marker tags searchPath maxDepth = .ok settings) (hdepth : 0 < maxDepth)
    (lib : Library) (name : Text) {ls : List Text} (hl : AreLines ls) (hcomplete : ∀ t ∈ ls, goesOn t = false) :
    Captures settings lib name (settings.grammar.printing ls) ls.flatten := by
  obtain ⟨hchecked, rfl⟩ := Settings.checked_of_make hmake
  have hprinted : physicalLines (ls.map settings.grammar.printLine).flatten = ls.map settings.grammar.printLine := by
    refine physicalLines_flatten (hchecked.areLines_printLine hl) fun u hu => ?_
    obtain ⟨t, _, rfl⟩ := List.mem_map.mp hu
    exact Grammar.printLine_ne_nil t
  refine captures_of_lines lib name hchecked hdepth (c := { inRegion := true, chain := [Path.clean name] }) ?_
  rw [hprinted]
  exact transcribeLines_literals lib _ name _
    (fun position t ht => transcribePhysical_printLine lib _ hchecked position (hcomplete t ht) rfl rfl) 3

/-- Lines that look like directives and delimiters, an empty one, one that is no UTF-8, and a last one that does not end
in a line feed. -/
def guises : List Text :=
  ["=end litweb\r\n", "=use_chunk c\n", "\n", [0xff, 0xc3, byte '\r', byte '\n'], "=print =begin_chunk d \\ \n", " \t"]

theorem captures_printing_guises :
    Settings.make "=" [] [] 1000 = .ok .standard ∧ AreLines guises ∧ (∀ t ∈ guises, goesOn t = false) ∧
      Captures .standard (.ofList []) "f" (Settings.standard.grammar.printing guises) guises.flatten := by
  have hmake : Settings.make "=" [] [] 1000 = .ok .standard := by rfl
  have hlines : AreLines guises := by decide
  have hcomplete : ∀ t ∈ guises, goesOn t = false := by decide
  exact ⟨hmake, hlines, hcomplete, captures_printing hmake (by decide) (.ofList []) "f" hlines hcomplete⟩

/-- **What is captured is verbatim.** The marker and the tags were checked, and some depth is allowed. No line of a text
goes on in the next. If none is a directive, the text is captured inside of a region. If none delimits a region, it is
captured outside, where code is included, whatever other directives its lines look like. -/
theorem captures_verbatim (hmake : Settings.make marker tags searchPath maxDepth = .ok settings) (hdepth : 0 < maxDepth)
    (lib : Library) (name : Text) {text : Text} (hcomplete : ∀ t ∈ physicalLines text, goesOn t = false) :
    let g := settings.grammar
    ((∀ t ∈ physicalLines text, ∀ d ∈ Directive.table, g.match? d (.ofPhysical .zero t) = none) →
      Captures settings lib name (g.within text) text) ∧
    ((∀ t ∈ physicalLines text, g.delimiter? (.ofPhysical .zero t) = none) →
      Captures settings lib name (g.beside text) text) := by
  intro g
  obtain ⟨hchecked, rfl⟩ := Settings.checked_of_make hmake
  refine ⟨fun hmatch => ?_, fun hdelimiter => ?_⟩
  · have hlines := transcribeLines_literals lib (transcribeSource settings lib lib.limit) name id
      (fun position t ht => transcribePhysical_inside lib _ position (hcomplete t ht) rfl rfl (hmatch t ht))
      (c := { inRegion := true, chain := [Path.clean name] }) 3
    rw [List.map_id] at hlines
    have hcaptures := captures_of_lines lib name hchecked hdepth hlines
    rw [flatten_physicalLines] at hcaptures
    exact hcaptures
  · have hlines := transcribeLines_literals lib (transcribeSource settings lib lib.limit) name id
      (fun position t ht => transcribePhysical_outside lib _ position (hcomplete t ht) rfl rfl rfl (hdelimiter t ht))
      (c := { includeCode := true, chain := [Path.clean name] }) 5
    rw [List.map_id, ← transcribeLines_codeLine lib name hchecked text 3] at hlines
    have hcaptures := captures_of_lines lib name hchecked hdepth hlines
    rw [flatten_physicalLines, ← List.append_assoc] at hcaptures
    exact hcaptures

/-- A text with all kinds of line endings, and none at its end. -/
def ragged : Text := ofString "a\r\n\n\r\nb\rc \\ \n  =use_chunk c\n" ++ [0xff, 0xc3]

/-- A text whose lines are directives. -/
def directed : Text := "=begin_chunk d\n=use_chunk c\r\n=include_code\n=display_chunk c\n=include f"

theorem captures_verbatim_directed :
    Settings.make "=" [] [] 1000 = .ok .standard ∧
    Captures .standard (.ofList []) "f" (Settings.standard.grammar.within ragged) ragged ∧
    Captures .standard (.ofList []) "f" (Settings.standard.grammar.beside directed) directed := by
  have hmake : Settings.make "=" [] [] 1000 = .ok .standard := by rfl
  have hragged : ∀ t ∈ physicalLines ragged, goesOn t = false := by decide
  have hdirected : ∀ t ∈ physicalLines directed, goesOn t = false := by decide
  refine ⟨hmake, ?_, ?_⟩
  · exact (captures_verbatim hmake (by decide) (.ofList []) "f" hragged).1 (by decide)
  · exact (captures_verbatim hmake (by decide) (.ofList []) "f" hdirected).2 (by decide)

end Settings

end Literate
