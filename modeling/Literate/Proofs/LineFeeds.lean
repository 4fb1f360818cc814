import Literate.Proofs.LogLines

/-!
# Line feeds in pretty log lines

A text that is laid out as a block keeps all of its line feeds (`feeds_block`): nothing in a line is quoted. So the line
of a record has the line feed at its end, and those of the texts that it is made of: the time stamp, the message, the
dotted keys, and the values that are texts, lists of texts or errors (`feeds_line`). A handler writes one line for a
record if and only if there is no line feed in any of them (`write_oneLine`). A message with one can look like two
records (`write_forged`).
-/

namespace Literate.Log

open Text

/-- The number of line feeds in a text. -/
def feeds (t : Text) : Nat := t.count (byte '\n')

section Feeds

variable {t u : Text}

@[simp] theorem feeds_nil : feeds [] = 0 := rfl

@[simp] theorem feeds_append (t u : Text) : feeds (t ++ u) = feeds t + feeds u := List.count_append

theorem feeds_cons (b : UInt8) (t : Text) : feeds (b :: t) = feeds t + if b = byte '\n' then 1 else 0 := by
  simp [feeds, List.count_cons]

theorem feeds_eq_zero_iff : feeds t = 0 ↔ byte '\n' ∉ t := List.count_eq_zero

/-- A text without control characters has no line feeds. -/
theorem feeds_of_forall_le (h : ∀ b ∈ t, 0x20 ≤ b) : feeds t = 0 := by
  refine feeds_eq_zero_iff.mpr fun hmem => ?_
  exact absurd (h _ hmem) (by decide)

theorem feeds_onlyIf {c : Prop} [Decidable c] (h : feeds t = 0) : feeds (onlyIf c t) = 0 := by
  unfold onlyIf
  split
  · exact h
  · rfl

/-- The line feeds of joined texts. -/
theorem feeds_join (sep : Text) (ts : List Text) :
    feeds (join sep ts) = (ts.map feeds).sum + (ts.length - 1) * feeds sep := by
  have hjoin : ∀ ts, join sep ts = sep.intercalate ts := fun _ => rfl
  induction ts with
  | nil => simp [hjoin]
  | cons t ts ih =>
    cases ts with
    | nil => simp [hjoin]
    | cons u ts =>
      rw [hjoin, List.intercalate_cons_cons, ← hjoin, feeds_append, feeds_append, ih]
      simp only [List.map_cons, List.sum_cons, List.length_cons, Nat.add_sub_cancel, Nat.succ_mul]
      omega

/-! ## Blocks -/

theorem feeds_pushBlank (b : UInt8) (p : Text × Option UInt8) :
    feeds (pushBlank b p).1 = feeds p.1 + if b = byte '\n' then 1 else 0 := by
  obtain ⟨t, next⟩ := p
  have hspaces : feeds "    " = 0 := by decide
  have hfeed : byte '\t' ≠ byte '\n' ∧ byte '\r' ≠ byte '\n' := by decide
  simp only [pushBlank]
  by_cases htab : b = byte '\t'
  · rw [if_pos htab, feeds_append, hspaces, htab, if_neg hfeed.1]
    omega
  by_cases hreturn : b = byte '\r' ∧ next = some (byte '\n')
  · rw [if_neg htab, if_pos hreturn, hreturn.1, if_neg hfeed.2, Nat.add_zero]
  · rw [if_neg htab, if_neg hreturn, feeds_cons]

/-- A tab becomes spaces, and a carriage return goes without its line feed. -/
theorem feeds_flattenBlanks (t : Text) : feeds (flattenBlanks t) = feeds t := by
  unfold flattenBlanks
  induction t with
  | nil => rfl
  | cons b t ih => rw [List.foldr_cons, feeds_pushBlank, ih, feeds_cons]

/-- A text has one line more than line feeds, and none of its lines has one. -/
theorem pieces_feed (t : Text) :
    (pieces (byte '\n') t).length = feeds t + 1 ∧ ∀ l ∈ pieces (byte '\n') t, feeds l = 0 := by
  induction t with
  | nil => exact ⟨rfl, by simp [pieces]⟩
  | cons b t ih =>
    have hpush : pieces (byte '\n') (b :: t) = pushPiece (byte '\n') b (pieces (byte '\n') t) := rfl
    obtain ⟨hlength, hlines⟩ := ih
    rw [hpush]
    cases hpieces : pieces (byte '\n') t with
    | nil =>
      rw [hpieces] at hlength
      simp at hlength
    | cons l ls =>
      rw [hpieces] at hlength hlines
      obtain ⟨hl, hls⟩ := List.forall_mem_cons.mp hlines
      by_cases hb : b = byte '\n'
      · rw [pushPiece, if_pos hb, feeds_cons, if_pos hb, List.length_cons, hlength]
        exact ⟨rfl, List.forall_mem_cons.mpr ⟨rfl, hlines⟩⟩
      · rw [pushPiece, if_neg hb, feeds_cons, if_neg hb, Nat.add_zero]
        exact ⟨hlength, List.forall_mem_cons.mpr ⟨by rw [feeds_cons, if_neg hb, hl], hls⟩⟩

/-- **A block has the line feeds of its text.** -/
theorem feeds_block (t : Text) : feeds (block t) = feeds t := by
  obtain ⟨hlength, hlines⟩ := pieces_feed (flattenBlanks t)
  rw [feeds_flattenBlanks] at hlength
  simp only [block]
  generalize pieces (byte '\n') (flattenBlanks t) = lines at hlength hlines
  split
  · next line =>
    rw [List.length_singleton] at hlength
    rw [hlines line List.mem_cons_self]
    omega
  · -- the spaces behind the lines are no line feeds
    have hpad : ∀ l ∈ lines, ∀ n, feeds (l ++ List.replicate n (byte ' ')) = 0 := by
      intro l hl n
      have hspaces : feeds (List.replicate n (byte ' ')) = 0 := by
        refine feeds_of_forall_le fun b hb => ?_
        rw [List.eq_of_mem_replicate hb]
        decide
      rw [feeds_append, hlines l hl, hspaces]
    have hone : feeds "\n" = 1 := by decide
    rw [feeds_join, List.map_map, List.length_map, hone, hlength]
    rw [List.sum_eq_zero_iff.mpr fun n hn => by
      obtain ⟨l, hl, rfl⟩ := List.mem_map.mp hn
      exact hpad l hl _]
    omega

end Feeds

/-! ## Values -/

/-- The number of line feeds in a value that is no group. Only texts, lists of them and errors have any. -/
def Value.feeds : Value → Nat
  | .text t => Log.feeds t
  | .texts items => ((items.getD []).map Log.feeds).sum
  | .error m => Log.feeds m
  | _ => 0

/-- Whether a value is no group. -/
def Value.isScalar : Value → Bool
  | .group _ => false
  | .failure _ _ => false
  | _ => true

theorem feeds_listText (items : List Text) : feeds (listText items) = (items.map feeds).sum := by
  have hmarks : feeds "[" = 0 ∧ feeds "]" = 0 ∧ feeds " " = 0 := by decide
  obtain ⟨hopen, hclose, hspace⟩ := hmarks
  rw [listText, feeds_append, feeds_append, feeds_join, hopen, hclose, hspace]
  omega

theorem feeds_ofNat (n : Nat) : feeds (Text.ofNat n) = 0 := feeds_of_forall_le fun b hb => (isBare_ofNat n b hb).1

theorem feeds_blockValue {v : Value} (h : v.isScalar) : feeds (blockValue false v) = v.feeds := by
  cases v with
  | text t => simp [blockValue, feeds_block, Value.feeds]
  | int n =>
    simp only [blockValue, feeds_block, Value.plainText]
    exact feeds_of_forall_le fun b hb => (isShown_ofInt n b hb).1
  | uint n =>
    simp only [blockValue, feeds_block, Value.plainText]
    exact feeds_ofNat n
  | float bits =>
    simp only [blockValue, feeds_block, Value.plainText]
    exact feeds_of_forall_le fun b hb => le_of_mem_floatText hb
  | duration n =>
    simp only [blockValue, feeds_block, Value.plainText]
    exact feeds_of_forall_le fun b hb => le_of_mem_durationText hb
  | bool b =>
    simp only [blockValue, feeds_block, Value.plainText]
    cases b <;> decide
  | time t =>
    simp only [blockValue, feeds_block]
    exact feeds_of_forall_le fun b hb => le_of_mem_format hb
  | null => decide
  | texts items => simp [blockValue, feeds_block, feeds_listText, Value.feeds]
  | error m => simp [blockValue, feeds_block, Value.feeds]
  | failure m attrs => exact absurd h (by simp [Value.isScalar])
  | group attrs => exact absurd h (by simp [Value.isScalar])

mutual

theorem isScalar_of_mem_leaves {path k : Text} : (v : Value) → ∀ a ∈ v.leaves path k, a.2.isScalar
  | .group attrs => by
    rw [Value.leaves]
    exact isScalar_of_mem_leavesAll attrs
  | .failure _ attrs => by
    rw [Value.leaves]
    exact isScalar_of_mem_leavesAll attrs
  | .text _ | .int _ | .uint _ | .float _ | .duration _ | .bool _ | .time _ | .null | .texts _ | .error _ => by
    intro a ha
    simp only [Value.leaves] at ha
    split at ha
    · exact absurd ha List.not_mem_nil
    · rw [List.mem_singleton.mp ha]
      rfl

/-- No leaf is a group. -/
theorem isScalar_of_mem_leavesAll {path : Text} : (attrs : List (Text × Value)) →
    ∀ a ∈ leavesAll path attrs, a.2.isScalar
  | [] => by
    rw [leavesAll]
    exact fun _ ha => absurd ha List.not_mem_nil
  | (k, v) :: rest => by
    intro a ha
    rw [leavesAll] at ha
    rcases List.mem_append.mp ha with ha | ha
    · exact isScalar_of_mem_leaves v a ha
    · exact isScalar_of_mem_leavesAll rest a ha

end

theorem feeds_leafText {a : Text × Value} (h : a.2.isScalar) : feeds (leafText a) = feeds a.1 + a.2.feeds := by
  have hmarks : feeds " " = 0 ∧ feeds "=" = 0 := by decide
  rw [leafText, feeds_append, feeds_append, feeds_block, feeds_append, hmarks.1, hmarks.2, feeds_blockValue h,
    Nat.zero_add, Nat.add_zero]

/-! ## Lines -/

namespace Pretty

/-- The dotted keys and the values in the line of a record. -/
def shown (h : Pretty) (r : Record) : List (Text × Value) := leavesAll [] (h.allAttrs r)

theorem feeds_opening (h : Pretty) (r : Record) :
    feeds (h.opening r) = feeds (h.stamp r) + feeds r.message.text := by
  have hlevel : feeds (block (levelText r.message.level ++
      List.replicate (5 - (levelText r.message.level).length) (byte ' '))) = 0 := by
    rw [feeds_block]
    refine feeds_of_forall_le fun b hb => ?_
    rcases List.mem_append.mp hb with hb | hb
    · exact (isShown_levelText _ b hb).1
    · rw [List.eq_of_mem_replicate hb]
      decide
  have hsource : feeds (onlyIf (h.showsSource r) (" " ++ block sourceText)) = 0 := feeds_onlyIf (by decide)
  have hspace : feeds " " = 0 := by decide
  have hstamp : feeds (onlyIf (h.stamp r ≠ []) (block (h.stamp r) ++ " ")) = feeds (h.stamp r) := by
    by_cases hnil : h.stamp r = []
    · simp [hnil, onlyIf]
    · simp [hnil, onlyIf, feeds_block, hspace]
  simp only [opening, feeds_append, hstamp, hlevel, hsource, hspace, feeds_block, Nat.add_zero]

/-- The line feeds of a line before the one at its end are those of the texts that it is made of. -/
theorem feeds_line (h : Pretty) (r : Record) : ∃ t, h.line r = t ++ "\n" ∧
    feeds t = feeds (h.stamp r) + feeds r.message.text + ((h.shown r).map fun a => feeds a.1 + a.2.feeds).sum := by
  refine ⟨_, line_eq h r, ?_⟩
  have hleaves : feeds ((h.shown r).flatMap leafText) = ((h.shown r).map fun a => feeds a.1 + a.2.feeds).sum := by
    have hcount : feeds ((h.shown r).flatMap leafText) = ((h.shown r).map (feeds ∘ leafText)).sum := List.count_flatMap
    rw [hcount]
    exact congrArg List.sum (List.map_congr_left fun a ha => feeds_leafText (isScalar_of_mem_leavesAll _ a ha))
  rw [feeds_append, feeds_opening, ← hleaves]
  rfl

/-- Whether what is written is one line. -/
def IsOneLine (t : Text) : Prop := ∃ u, t = u ++ "\n" ∧ byte '\n' ∉ u

theorem isOneLine_line_iff (h : Pretty) (r : Record) : IsOneLine (h.line r) ↔
    byte '\n' ∉ h.stamp r ∧ byte '\n' ∉ r.message.text ∧ ∀ a ∈ h.shown r, byte '\n' ∉ a.1 ∧ a.2.feeds = 0 := by
  obtain ⟨t, hline, hfeeds⟩ := feeds_line h r
  have hone : IsOneLine (h.line r) ↔ feeds t = 0 := by
    rw [feeds_eq_zero_iff]
    constructor
    · rintro ⟨u, hu, hnone⟩
      rwa [List.append_cancel_right (hline.symm.trans hu)]
    · exact fun hnone => ⟨t, hline, hnone⟩
  rw [hone, hfeeds, Nat.add_eq_zero_iff, Nat.add_eq_zero_iff, List.sum_eq_zero_iff, feeds_eq_zero_iff,
    feeds_eq_zero_iff, and_assoc]
  simp only [List.forall_mem_map, Nat.add_eq_zero_iff, feeds_eq_zero_iff]

/-- **A record is written on one line if all texts in it are on one line.** Whatever attributes and groups were laid
down in a handler before, it ends what it writes for a record with a line feed. Before that stand as many others as
there are in the time stamp, in the message, in the dotted keys, and in the values that are texts, lists of texts or
errors. So it writes one line if and only if none of these has a line feed. -/
theorem write_oneLine (options : Options) (es : List Extension) (r : Record) :
    let h := extendAll { json := false, options } es
    (∃ t, h.write r = t ++ "\n" ∧
      feeds t = feeds (h.stamp r) + feeds r.message.text + ((h.shown r).map fun a => feeds a.1 + a.2.feeds).sum) ∧
    (IsOneLine (h.write r) ↔
      byte '\n' ∉ h.stamp r ∧ byte '\n' ∉ r.message.text ∧ ∀ a ∈ h.shown r, byte '\n' ∉ a.1 ∧ a.2.feeds = 0) := by
  intro h
  have hwrite : h.write r = h.line r := by
    rw [write, if_neg]
    rw [show h.json = false by rw [show h = _ from extendAll_eq _ es]]
    exact Bool.false_ne_true
  rw [hwrite]
  exact ⟨feeds_line h r, isOneLine_line_iff h r⟩

/-- A message with a line feed is written as two records are; and a key, the key of a group, a text, a text in a list or
an error with one splits the line of its record. -/
theorem write_forged :
    let h : Pretty := { json := false, options := ⟨.info, false, []⟩ }
    let saying (text : Text) (attrs : List Attr) : Record := ⟨none, ⟨.info, text, attrs⟩, false⟩
    h.write (saying "was read\nINFO  ok" []) = h.write (saying "was read" []) ++ h.write (saying "ok" []) ∧
      ¬ IsOneLine (h.write (saying "was read\nINFO  ok" [])) ∧
      ∀ a ∈ ([("a\nb", .int 1), ("a\nb", .group [("c", .int 1)]), ("a", .text "b\nc"), ("a", .texts (some ["b\nc"])),
        ("a", .error "b\nc")] : List Attr), ¬ IsOneLine (h.write (saying "m" [a])) := by
  intro h saying
  have hline : ∀ r, h.write r = h.line r := fun _ => rfl
  refine ⟨by decide, ?_, ?_⟩
  · rw [hline, isOneLine_line_iff]
    decide
  · simp only [hline, isOneLine_line_iff]
    decide

end Pretty

end Literate.Log
