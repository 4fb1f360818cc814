import Literate.Proofs.Regions
import Mathlib.Data.List.TakeWhile

/-!
# Continuation lines

A physical line that ends in a backslash goes on in the next one. Taken line by line this cuts a text into groups: each
ends at the first line that does not end in a backslash, and the last one may be left open (`LineGroup.split`,
`LineGroup.Cut`). A group makes up one logical line (`LineGroup.line`).

Reading folds lines while it goes along: what decides whether it goes on waiting is the text that was joined so far, and
not the physical line alone. The two agree on every line that has a content, since collapsing white space at its start
does not change how it ends (`endsWith_collapseLeading`). They differ where a group ends in an empty line, and the text
that waits for it still ends in a backslash. The main statement is that this is the only difference
(`scanLines_folds`).
-/

namespace Literate

open Text Log

/-! ## The ends of texts -/

namespace Text

theorem endsWith_backslash {t : Text} : endsWith t "\\" = true ↔ t.getLast? = some (byte '\\') := by
  have h : (("\\" : String) : Text) = [byte '\\'] := by decide
  rw [endsWith, h, List.getLast?_eq_head?_reverse]
  cases t.reverse with
  | nil => simp
  | cons b rest =>
    show (byte '\\' == b && true) = true ↔ some b = some (byte '\\')
    rw [Bool.and_true, beq_iff_eq, Option.some_inj, eq_comm]

theorem endsWith_append {t u : Text} (hu : u ≠ []) : endsWith (t ++ u) "\\" = endsWith u "\\" := by
  rw [Bool.eq_iff_iff, endsWith_backslash, endsWith_backslash, List.getLast?_append_of_ne_nil _ hu]

/-- A text is its leading white space and the rest. -/
theorem ofSymbols_append_trimLeft (t : Text) :
    ofSymbols ((symbols t).takeWhile (isSpace ·.char)) ++ trimLeft t = t := by
  unfold trimLeft ofSymbols
  rw [← List.flatMap_append, List.takeWhile_append_dropWhile]
  exact ofSymbols_symbols t

theorem collapseLeading_eq_nil {t : Text} : collapseLeading t = [] ↔ t = [] := by
  unfold collapseLeading
  dsimp only
  split
  · rename_i hlt
    refine ⟨fun h => absurd h (List.cons_ne_nil _ _), fun h => ?_⟩
    rw [h] at hlt
    exact absurd hlt (Nat.not_lt_zero _)
  · exact Iff.rfl

/-- What is nothing but white space does not end in a backslash. -/
theorem endsWith_of_trimLeft_eq_nil {t : Text} (h : trimLeft t = []) : endsWith t "\\" = false := by
  have hspace : ∀ r ∈ symbols t, isSpace r.char = true := by
    refine List.dropWhile_eq_nil_iff.mp (List.eq_nil_iff_forall_not_mem.mpr fun r hr => ?_)
    have hbytes := bytes_ne_nil_of_mem_symbols ((List.dropWhile_suffix _).mem hr)
    exact hbytes (List.flatMap_eq_nil_iff.mp h r hr)
  rw [Bool.eq_false_iff, ne_eq, endsWith_backslash]
  intro hlast
  have hchar := ascii_mem_chars (a := byte '\\') (by decide) (List.mem_of_getLast? hlast)
  obtain ⟨r, hr, hrc⟩ := List.mem_map.mp hchar
  have hbackslash := hspace r hr
  rw [hrc] at hbackslash
  exact absurd hbackslash (by decide)

/-- Collapsing leading white space does not change whether a text ends in a backslash. -/
theorem endsWith_collapseLeading (t : Text) : endsWith (collapseLeading t) "\\" = endsWith t "\\" := by
  unfold collapseLeading
  dsimp only
  split
  · by_cases hrest : trimLeft t = []
    · rw [endsWith_of_trimLeft_eq_nil hrest, hrest]
      decide
    · conv_rhs => rw [← ofSymbols_append_trimLeft t]
      rw [endsWith_append hrest]
      exact endsWith_append (t := [byte ' ']) hrest
  · rfl

/-! ## Groups -/

/-- The content of a physical line: all but its line ending. -/
def content (t : Text) : Text := trimEnd isLineEnd t

/-- Whether a physical line goes on in the next one. -/
def goesOn (t : Text) : Bool := endsWith (content t) "\\"

/-- What a physical line adds to a logical line: its content, and only one space for the white space at the start,
unless it is the first line. -/
def strand (isFirst : Bool) (t : Text) : Text := if isFirst then content t else collapseLeading (content t)

/-- The text of numbered physical lines that go on: what they add, each without the backslash at its end. -/
def heldText : List (Text × Nat) → Text
  | [] => []
  | p :: ps => (strand true p.1).dropLast ++ ps.flatMap fun q => (strand false q.1).dropLast

end Text

/-- Numbered physical lines that make up a logical line: those that go on, and the last one. -/
structure LineGroup where
  held : List (Text × Nat)
  last : Text × Nat

/-- The logical line of a group. -/
def LineGroup.line (file : Text) (g : LineGroup) : LogicalLine where
  body := heldText g.held ++ strand g.held.isEmpty g.last.1
  terminator := g.last.1.drop (content g.last.1).length
  position := ⟨file, (g.held.head?.getD g.last).2⟩

/-- The fragment that waits after numbered physical lines that go on. -/
def Fragment.ofHeld (file : Text) : List (Text × Nat) → Option Fragment
  | [] => none
  | p :: ps => some ⟨heldText (p :: ps), ⟨file, p.2⟩⟩

/-- The groups of physical lines from number `n` on, after lines that go on, and the lines of a group that is left
open. -/
def LineGroup.split : (held : List (Text × Nat)) → (n : Nat) → List Text → List LineGroup × List (Text × Nat)
  | held, _, [] => ([], held)
  | held, n, t :: rest =>
    if goesOn t then split (held ++ [(t, n)]) (n + 1) rest
    else (⟨held, (t, n)⟩ :: (split [] (n + 1) rest).1, (split [] (n + 1) rest).2)

/-- Lines are cut into groups, each of which ends at the first line that does not go on, and the lines after the last
one, which all go on. -/
structure LineGroup.Cut (lines : List (Text × Nat)) (groups : List LineGroup) (left : List (Text × Nat)) : Prop where
  whole : groups.flatMap (fun g => g.held ++ [g.last]) ++ left = lines
  held : ∀ g ∈ groups, ∀ p ∈ g.held, goesOn p.1 = true
  last : ∀ g ∈ groups, goesOn g.last.1 = false
  left : ∀ p ∈ left, goesOn p.1 = true

theorem LineGroup.split_cut {held : List (Text × Nat)} (hheld : ∀ p ∈ held, goesOn p.1 = true) (n : Nat)
    (texts : List Text) :
    Cut (held ++ texts.zipIdx n) (split held n texts).1 (split held n texts).2 := by
  induction texts generalizing held n with
  | nil =>
    exact ⟨by simp [split], fun _ hg => absurd hg List.not_mem_nil, fun _ hg => absurd hg List.not_mem_nil, hheld⟩
  | cons t rest ih =>
    unfold split
    rw [List.zipIdx_cons]
    by_cases ht : goesOn t = true
    · rw [if_pos ht]
      have hsnoc : ∀ p ∈ held ++ [(t, n)], goesOn p.1 = true := fun p hp =>
        (List.mem_append.mp hp).elim (hheld p) fun hp => List.mem_singleton.mp hp ▸ ht
      have h := ih hsnoc (n + 1)
      rw [List.append_assoc] at h
      exact h
    · rw [if_neg ht]
      have hnil : ∀ p ∈ ([] : List (Text × Nat)), goesOn p.1 = true := fun p hp => absurd hp List.not_mem_nil
      obtain ⟨hwhole, hgroups, hlast, hleft⟩ := ih hnil (n + 1)
      refine ⟨?_, fun g hg => ?_, fun g hg => ?_, hleft⟩
      · rw [List.flatMap_cons, List.append_assoc, hwhole, List.append_assoc]
        rfl
      · rcases List.mem_cons.mp hg with rfl | hg
        · exact hheld
        · exact hgroups g hg
      · rcases List.mem_cons.mp hg with rfl | hg
        · exact Bool.eq_false_iff.mpr ht
        · exact hlast g hg

/-! ## Folding -/

/-- The logical lines of physical lines from number `n` on, and the fragment that waits after them. -/
def foldLines (file : Text) : (pending : Option Fragment) → (n : Nat) → List Text → List LogicalLine × Option Fragment
  | pending, _, [] => ([], pending)
  | pending, n, t :: rest =>
    match fold pending ⟨file, n⟩ t with
    | .inl fragment => foldLines file (some fragment) (n + 1) rest
    | .inr l => (l :: (foldLines file none (n + 1) rest).1, (foldLines file none (n + 1) rest).2)

section Folding

variable {file : Text}

/-- One more line. -/
theorem foldLines_snoc (pending : Option Fragment) (n : Nat) (texts : List Text) (t : Text) :
    foldLines file pending n (texts ++ [t]) =
      match fold (foldLines file pending n texts).2 ⟨file, n + texts.length⟩ t with
      | .inl fragment => ((foldLines file pending n texts).1, some fragment)
      | .inr l => ((foldLines file pending n texts).1 ++ [l], none) := by
  induction texts generalizing pending n with
  | nil =>
    simp only [List.nil_append, foldLines, List.length_nil, Int.natCast_zero, Int.add_zero]
  | cons u rest ih =>
    have hlength : (n : Int) + ((u :: rest).length : Nat) = ((n + 1 : Nat) : Int) + (rest.length : Nat) := by
      rw [List.length_cons]
      omega
    rw [hlength, List.cons_append]
    simp only [foldLines]
    cases fold pending ⟨file, n⟩ u with
    | inl fragment => exact ih (some fragment) (n + 1)
    | inr l =>
      simp only [ih]
      cases fold (foldLines file none (n + 1) rest).2 ⟨file, ((n + 1 : Nat) : Int) + (rest.length : Nat)⟩ t <;> rfl

theorem heldText_snoc (held : List (Text × Nat)) (p : Text × Nat) :
    heldText (held ++ [p]) = heldText held ++ (strand held.isEmpty p.1).dropLast := by
  cases held with
  | nil => simp [heldText]
  | cons q held => simp [heldText]

/-- What a line adds ends in a backslash if the line goes on. -/
theorem endsWith_strand (isFirst : Bool) (t : Text) : endsWith (strand isFirst t) "\\" = goesOn t := by
  cases isFirst with
  | true => rfl
  | false => exact endsWith_collapseLeading (content t)

theorem strand_eq_nil {isFirst : Bool} {t : Text} : strand isFirst t = [] ↔ content t = [] := by
  cases isFirst with
  | true => exact Iff.rfl
  | false => exact collapseLeading_eq_nil

/-- A line is folded with what waits for it by what it adds. -/
theorem fold_ofHeld (held : List (Text × Nat)) (n : Nat) (t : Text) :
    fold (Fragment.ofHeld file held) ⟨file, n⟩ t =
      if endsWith (heldText held ++ strand held.isEmpty t) "\\" then
        .inl ⟨(heldText held ++ strand held.isEmpty t).dropLast, ⟨file, (held.head?.getD (t, n)).2⟩⟩
      else .inr (LineGroup.line file ⟨held, (t, n)⟩) := by
  cases held with
  | nil => rfl
  | cons p ps => rfl

variable (file) in
/-- A line that goes on is held. -/
theorem fold_of_goesOn (held : List (Text × Nat)) (n : Nat) {t : Text} (ht : goesOn t = true) :
    ∃ fragment, fold (Fragment.ofHeld file held) ⟨file, n⟩ t = .inl fragment ∧
      Fragment.ofHeld file (held ++ [(t, n)]) = some fragment := by
  have hne : strand held.isEmpty t ≠ [] := by
    intro hnil
    rw [← endsWith_strand held.isEmpty, hnil] at ht
    exact absurd ht (by decide)
  refine ⟨_, (fold_ofHeld held n t).trans (if_pos ?_), ?_⟩
  · rw [endsWith_append hne, endsWith_strand, ht]
  · rw [List.dropLast_append_of_ne_nil hne, ← heldText_snoc held (t, n)]
    cases held <;> rfl

/-- A line that does not go on completes its group, unless it is empty and the text that waits for it goes on. -/
theorem fold_of_not_goesOn (held : List (Text × Nat)) (n : Nat) {t : Text} (ht : goesOn t = false)
    (h : content t = [] → endsWith (heldText held) "\\" = false) :
    fold (Fragment.ofHeld file held) ⟨file, n⟩ t = .inr (LineGroup.line file ⟨held, (t, n)⟩) := by
  refine (fold_ofHeld held n t).trans (if_neg ?_)
  rw [Bool.not_eq_true]
  by_cases hnil : content t = []
  · rw [strand_eq_nil.mpr hnil, List.append_nil]
    exact h hnil
  · rw [endsWith_append (mt strand_eq_nil.mp hnil), endsWith_strand, ht]

/-- No logical line ends in a backslash. -/
theorem endsWith_body_of_fold {pending : Option Fragment} {position : Position} {t : Text} {l : LogicalLine}
    (h : fold pending position t = .inr l) : endsWith l.body "\\" = false := by
  unfold fold at h
  cases pending <;> dsimp only at h <;> split at h
  case none.isTrue | some.isTrue => cases h
  all_goals
    rename_i hends
    obtain rfl := Sum.inr.inj h
    exact Bool.eq_false_iff.mpr hends

theorem endsWith_body_of_foldLines {pending : Option Fragment} {n : Nat} {texts : List Text} :
    ∀ l ∈ (foldLines file pending n texts).1, endsWith l.body "\\" = false := by
  induction texts generalizing pending n with
  | nil => exact fun l hl => absurd hl List.not_mem_nil
  | cons t rest ih =>
    unfold foldLines
    cases hf : fold pending ⟨file, n⟩ t with
    | inl fragment => exact ih
    | inr l =>
      intro k hk
      rcases List.mem_cons.mp hk with rfl | hk
      · exact endsWith_body_of_fold hf
      · exact ih k hk

variable (file) in
/-- **Folding follows the groups**, if no group ends in an empty line while the text that waits for it goes on. -/
theorem foldLines_ofHeld {held : List (Text × Nat)} {n : Nat} {texts : List Text}
    (h : ∀ g ∈ (LineGroup.split held n texts).1, content g.last.1 = [] → endsWith (heldText g.held) "\\" = false) :
    foldLines file (Fragment.ofHeld file held) n texts =
      ((LineGroup.split held n texts).1.map (LineGroup.line file),
        Fragment.ofHeld file (LineGroup.split held n texts).2) := by
  induction texts generalizing held n with
  | nil => rfl
  | cons t rest ih =>
    unfold LineGroup.split at h ⊢
    unfold foldLines
    by_cases ht : goesOn t = true
    · rw [if_pos ht] at h ⊢
      obtain ⟨fragment, hf, hheld⟩ := fold_of_goesOn file held n ht
      rw [hf]
      dsimp only
      rw [← hheld, ih h]
    · rw [if_neg ht] at h ⊢
      have hrest : foldLines file (Fragment.ofHeld file []) (n + 1) rest = _ :=
        ih fun g hg => h g (List.mem_cons_of_mem _ hg)
      rw [fold_of_not_goesOn held n (Bool.eq_false_iff.mpr ht) (h _ List.mem_cons_self)]
      dsimp only
      rw [show (none : Option Fragment) = Fragment.ofHeld file [] from rfl, hrest]
      rfl

variable (file) in
/-- Folding follows the groups exactly if this is so. -/
theorem foldLines_iff (texts : List Text) :
    ((foldLines file none 1 texts).1 = (LineGroup.split [] 1 texts).1.map (LineGroup.line file) ∧
        (foldLines file none 1 texts).2 = Fragment.ofHeld file (LineGroup.split [] 1 texts).2) ↔
      ∀ g ∈ (LineGroup.split [] 1 texts).1, content g.last.1 = [] → endsWith (heldText g.held) "\\" = false := by
  refine ⟨fun ⟨hlines, _⟩ g hg hnil => ?_, fun h => ?_⟩
  · have hm : g.line file ∈ (foldLines file none 1 texts).1 := by
      rw [hlines]
      exact List.mem_map_of_mem hg
    have hbody := endsWith_body_of_foldLines _ hm
    rw [show (g.line file).body = heldText g.held ++ strand g.held.isEmpty g.last.1 from rfl,
      strand_eq_nil.mpr hnil, List.append_nil] at hbody
    exact hbody
  · have heq := foldLines_ofHeld file h
    rw [show Fragment.ofHeld file [] = none from rfl] at heq
    rw [heq]
    exact ⟨rfl, rfl⟩

end Folding

/-! ## Reading -/

namespace Desk

variable {settings : Settings} {lib : Library} {d e f : Desk}

/-- The desk on which the lines of a document lie, from number `n` on, and nothing else. -/
def sheet (name : Text) (n : Nat) (texts : List Text) (s : Session) : Desk := ⟨s, [⟨name, n, texts, none⟩], none⟩

/-- While the lines of a document are read, no file is included, and no line fails. -/
def Quiet (settings : Settings) (lib : Library) (d : Desk) : Prop :=
  ∀ e, Leads settings lib d e → e.pages.length ≤ 1 ∧ e.stop = none

theorem Quiet.leads (h : Quiet settings lib d) (hl : Leads settings lib d e) : Quiet settings lib e :=
  fun f hf => h f (hl.trans hf)

section Quiet

variable {name : Text} {n : Nat} {text : Text} {rest : List Text} {s : Session}

/-- A line that includes nothing and does not fail is read as any reader would, and leaves what waits. -/
theorem Quiet.line {l : LogicalLine} {page : Page} (h : Quiet settings lib (readLine settings lib l s [page])) :
    ∃ t, readLine settings lib l s [page] = ⟨t, [page], none⟩ ∧
      (∀ read, scanLine settings lib read l s = (t, none)) ∧ t.web.pending = s.web.pending := by
  obtain ⟨hpages, hstop⟩ := h _ .refl
  unfold readLine at hpages hstop ⊢
  cases ht : includeTarget? settings s.web.inRegion l with
  | some target =>
    -- a file would be put on top, or the line would fail
    rw [ht] at hpages hstop
    rcases enter_cases settings lib target l _ _ with ⟨stop, hsome, -⟩ | ⟨_, _, _, _, _, hon, _⟩
    · exact absurd (hstop.symm.trans hsome) (Option.some_ne_none stop).symm
    · rw [hon] at hpages
      exact absurd hpages (by simp)
  | none =>
    rw [ht] at hstop
    have hcontrol := scanLine_idle_control settings lib l s
    generalize hx : scanLine settings lib idle l s = x at hstop hcontrol
    obtain ⟨t, stop⟩ := x
    obtain rfl : stop = none := hstop
    refine ⟨t, rfl, fun read => (scanLine_of_not_includes read ht).trans hx, ?_⟩
    -- what waits for its continuation is changed by folding only
    rcases transcribeLine_region settings lib l (c := s.web.control) ht with ⟨-, hline⟩ | ⟨-, -, _, hline⟩
    · rw [hline] at hcontrol
      exact congrArg Control.pending hcontrol
    · exact congrArg Control.pending (hcontrol.trans hline)

/-- A step reads one line, as any reader would. -/
theorem Quiet.step (h : Quiet settings lib (sheet name n (text :: rest) s)) :
    ∃ t, (sheet name n (text :: rest) s).step? settings lib = some (sheet name (n + 1) rest t) ∧
      (∀ read, scanPhysical settings lib read ⟨name, n⟩ text s = (t, none)) ∧
      (sheet name n (text :: rest) s).line? = (fold s.web.pending ⟨name, n⟩ text).getRight? ∧
      t.web.pending = (fold s.web.pending ⟨name, n⟩ text).getLeft? := by
  cases hf : fold s.web.pending ⟨name, n⟩ text with
  | inl fragment =>
    refine ⟨s.modify fun w => { w with pending := some fragment }, by simp only [step?, sheet, hf], fun read => ?_,
      by simp only [line?, sheet, hf], rfl⟩
    simp only [scanPhysical, hf]
  | inr l =>
    have hstep : (sheet name n (text :: rest) s).step? settings lib =
        some (readLine settings lib l (s.modify fun w => { w with pending := none }) [⟨name, n + 1, rest, none⟩]) := by
      simp only [step?, sheet, hf]
    obtain ⟨t, hread, hscan, hpending⟩ := (h.leads (.single hstep)).line
    refine ⟨t, hstep.trans (congrArg some hread), fun read => ?_, by simp only [line?, sheet, hf], hpending⟩
    simp only [scanPhysical, hf]
    exact hscan read

/-- The lines of a document are read to the end. -/
theorem Quiet.exists_passage {texts : List Text} (h : Quiet settings lib (sheet name n texts s)) :
    ∃ ls t, Passage settings lib 1 (sheet name n texts s) ls (sheet name (n + texts.length) [] t) ∧
      ∀ read, scanLines settings lib read name n texts s = (t, none) := by
  induction texts generalizing n s with
  | nil => exact ⟨[], s, .refl, fun read => rfl⟩
  | cons text rest ih =>
    obtain ⟨t, hstep, hscan, -, -⟩ := h.step
    obtain ⟨ls, u, hp, hread⟩ := ih (h.leads (.single hstep))
    have hfirst : Passage settings lib 1 _ _ (sheet name (n + 1) rest t) :=
      Passage.refl.own rfl hstep (Nat.le_refl 1)
    have hlength : n + (text :: rest).length = n + 1 + rest.length := by
      rw [List.length_cons]
      omega
    rw [hlength]
    refine ⟨_, u, hfirst.trans hp, fun read => ?_⟩
    rw [scanLines, hscan read]
    exact hread read

/-- At every moment the logical lines that were read are those that folding gives, and what waits is what waits after
them. -/
theorem Quiet.folds {texts : List Text} (h : Quiet settings lib (sheet name 1 texts s)) {ls : List LogicalLine}
    (hp : Passage settings lib 1 (sheet name 1 texts s) ls e) :
    ∃ before after t, texts = before ++ after ∧ e = sheet name (1 + before.length) after t ∧
      foldLines name s.web.pending 1 before = (ls, t.web.pending) := by
  induction hp with
  | refl => exact ⟨[], texts, s, rfl, rfl, rfl⟩
  | inner hp hlt _ _ => exact absurd (h _ hp.leads).1 (by omega)
  | @own ls e f hp _ hs hle ih =>
    obtain ⟨before, after, t, rfl, rfl, hfold⟩ := ih
    cases after with
    | nil =>
      obtain rfl := Option.some.inj hs
      exact absurd hle (Nat.not_succ_le_zero 0)
    | cons text rest =>
      obtain ⟨u, hstep, -, hline, hpending⟩ := (h.leads hp.leads).step
      obtain rfl := Option.some.inj (hstep.symm.trans hs)
      refine ⟨before ++ [text], rest, u, by simp, by rw [List.length_append]; rfl, ?_⟩
      rw [foldLines_snoc, hfold, hline, hpending]
      push_cast
      cases fold t.web.pending ⟨name, 1 + before.length⟩ text with
      | inl fragment => simp
      | inr l => simp

/-- When all lines are read, folding gives those that were read, and what waits. -/
theorem Quiet.foldLines_eq {texts : List Text} (h : Quiet settings lib (sheet name 1 texts s)) {ls : List LogicalLine}
    {t : Session} (hp : Passage settings lib 1 (sheet name 1 texts s) ls (sheet name (1 + texts.length) [] t)) :
    foldLines name s.web.pending 1 texts = (ls, t.web.pending) := by
  obtain ⟨before, after, u, rfl, heq, hfold⟩ := h.folds hp
  obtain ⟨hs, hpages, -⟩ := Desk.mk.inj heq
  obtain ⟨hpage, -⟩ := List.cons.inj hpages
  obtain rfl := (Page.mk.inj hpage).2.2.1
  rw [List.append_nil, hs]
  exact hfold

end Quiet

end Desk

/-! ## Logical lines -/

/-- **Continuation lines follow the physical lines**, but for an empty one after a text that goes on. The lines of a
text are cut into groups, and all of them are read. The logical lines are those of the groups, and what waits at the end
is what the open group makes up, if and only if no group ends in an empty line while the text that waits for it still
ends in a backslash. -/
theorem scanLines_folds (settings : Settings) (lib : Library) {name text : Text} {s : Session}
    (hpending : s.web.pending = none) (hquiet : Desk.Quiet settings lib (.sheet name 1 (physicalLines text) s)) :
    LineGroup.Cut ((physicalLines text).zipIdx 1) (LineGroup.split [] 1 (physicalLines text)).1
      (LineGroup.split [] 1 (physicalLines text)).2 ∧
    (∃ ls t, Desk.Passage settings lib 1 (.sheet name 1 (physicalLines text) s) ls
        (.sheet name (1 + (physicalLines text).length) [] t) ∧
      ∀ read, scanLines settings lib read name 1 (physicalLines text) s = (t, none)) ∧
    ∀ ls t, Desk.Passage settings lib 1 (.sheet name 1 (physicalLines text) s) ls
        (.sheet name (1 + (physicalLines text).length) [] t) →
      ((ls = (LineGroup.split [] 1 (physicalLines text)).1.map (LineGroup.line name) ∧
          t.web.pending = Fragment.ofHeld name (LineGroup.split [] 1 (physicalLines text)).2) ↔
        ∀ g ∈ (LineGroup.split [] 1 (physicalLines text)).1,
          content g.last.1 = [] → endsWith (heldText g.held) "\\" = false) := by
  refine ⟨LineGroup.split_cut (fun p hp => absurd hp List.not_mem_nil) 1 _, hquiet.exists_passage, fun ls t hp => ?_⟩
  rw [← foldLines_iff name, ← hpending, hquiet.foldLines_eq hp]

/-- Whether nothing lies on a desk but one document at most, and reading goes on. -/
def Desk.isQuiet (d : Desk) : Bool := d.pages.length ≤ 1 && d.stop.isNone

theorem Desk.quiet_of_isQuiet {settings : Settings} {lib : Library} {d : Desk} {n : Nat}
    (h : throughout settings lib isQuiet n d = true) : Quiet settings lib d := by
  intro e hl
  obtain ⟨hpages, hstop⟩ := Bool.and_eq_true_iff.mp (throughout_leads h hl)
  exact ⟨of_decide_eq_true hpages, Option.isNone_iff_eq_none.mp hstop⟩

/-- A line that goes on, the indented one after it, an empty one, and one that goes on at the end. -/
def indented : Text := "foo\\\n\t bar\r\n\nbaz\\\n"

/-- Two lines are folded, and the last one waits. -/
theorem scanLines_folds_indented :
    Web.empty.pending = none ∧
    Desk.Quiet .standard (.ofList []) (.sheet "f" 1 (physicalLines indented) ⟨.empty, #[]⟩) ∧
    ∃ ls t, Desk.Passage .standard (.ofList []) 1 (.sheet "f" 1 (physicalLines indented) ⟨.empty, #[]⟩) ls
        (.sheet "f" 5 [] t) ∧
      ls.map (·.text) = ["foo bar\r\n", "\n"] ∧ ls.map (·.position) = [⟨"f", 1⟩, ⟨"f", 3⟩] ∧
      t.web.pending = some ⟨"baz", ⟨"f", 4⟩⟩ := by
  have hquiet : Desk.Quiet .standard (.ofList []) (.sheet "f" 1 (physicalLines indented) ⟨.empty, #[]⟩) :=
    Desk.quiet_of_isQuiet (n := 6) (by decide)
  obtain ⟨-, ⟨ls, t, hp, -⟩, hiff⟩ := scanLines_folds .standard (.ofList []) rfl hquiet
  obtain ⟨hls, ht⟩ := (hiff ls t hp).mpr (by decide)
  rw [hls] at hp
  exact ⟨rfl, hquiet, _, t, hp, by decide, by decide, ht.trans (by decide)⟩

/-- A line that ends in two backslashes, an empty one, and another one. -/
def doubled : Text := "foo\\\\\n\nbar\n"

/-- The empty line completes a group, and yet is folded away. -/
theorem scanLines_swallows_doubled :
    (LineGroup.split [] 1 (physicalLines doubled)).1.map (fun g => (g.line "f").text) = ["foo\\\n", "bar\n"] ∧
    Web.empty.pending = none ∧
    Desk.Quiet .standard (.ofList []) (.sheet "f" 1 (physicalLines doubled) ⟨.empty, #[]⟩) ∧
    ∃ ls t, Desk.Passage .standard (.ofList []) 1 (.sheet "f" 1 (physicalLines doubled) ⟨.empty, #[]⟩) ls
        (.sheet "f" 4 [] t) ∧
      ls.map (·.text) = ["foobar\n"] ∧
      ls ≠ (LineGroup.split [] 1 (physicalLines doubled)).1.map (LineGroup.line "f") := by
  have hquiet : Desk.Quiet .standard (.ofList []) (.sheet "f" 1 (physicalLines doubled) ⟨.empty, #[]⟩) :=
    Desk.quiet_of_isQuiet (n := 5) (by decide)
  obtain ⟨ls, t, hp, -⟩ := hquiet.exists_passage
  obtain rfl := congrArg Prod.fst (hquiet.foldLines_eq hp)
  refine ⟨by decide, rfl, hquiet, _, t, hp, by decide, fun h => ?_⟩
  have hlength := congrArg List.length h
  revert hlength
  decide

end Literate
