import Literate.Proofs.Continuation

/-!
# Physical lines

Texts are the physical lines of what they make up together if every one but the last ends in a line feed, and none has
another one in it (`Text.AreLines`, `physicalLines_flatten`, `flatten_physicalLines`). So lines may be left out of a
text, and those that are left are its lines (`AreLines.sublist`).

A physical line that does not go on in the next one, and for which nothing waits, is a logical line as it stands
(`fold_of_complete`).
-/

namespace Literate

open Text

namespace Text

/-! ## Cutting a text into lines -/

/-- Whether texts can be the physical lines of a text: a line feed stands at the end of a line only, and at the end of
all lines but the last. -/
structure AreLines (ls : List Text) : Prop where
  inside : ∀ t ∈ ls, byte '\n' ∉ t.dropLast
  ended : ∀ t ∈ ls.dropLast, t.getLast? = some (byte '\n')

instance (ls : List Text) : Decidable (AreLines ls) :=
  decidable_of_iff ((∀ t ∈ ls, byte '\n' ∉ t.dropLast) ∧ ∀ t ∈ ls.dropLast, t.getLast? = some (byte '\n'))
    ⟨fun h => ⟨h.1, h.2⟩, fun h => ⟨h.inside, h.ended⟩⟩

theorem AreLines.of_cons {t : Text} {ls : List Text} (h : AreLines (t :: ls)) : AreLines ls where
  inside u hu := h.inside u (List.mem_cons_of_mem _ hu)
  ended u hu := by
    cases ls with
    | nil => cases hu
    | cons v ls => exact h.ended u (by rw [List.dropLast_cons_cons]; exact List.mem_cons_of_mem _ hu)

/-- What is left of lines when some are left out are lines. -/
theorem AreLines.sublist {ls kept : List Text} (h : AreLines ls) (hs : kept.Sublist ls) : AreLines kept := by
  refine ⟨fun t ht => h.inside t (hs.mem ht), ?_⟩
  induction hs with
  | slnil => exact h.ended
  | cons t hs ih => exact ih h.of_cons
  | @cons_cons kept ls t hs ih =>
    intro u hu
    cases kept with
    | nil => cases hu
    | cons v kept =>
      rw [List.dropLast_cons_cons] at hu
      rcases List.mem_cons.mp hu with rfl | hu
      · -- another line follows
        cases ls with
        | nil => cases hs
        | cons w ls => exact h.ended u (by rw [List.dropLast_cons_cons]; exact List.mem_cons_self)
      · exact ih h.of_cons u hu

/-- A text with a line feed at most at its end is one line. -/
theorem physicalLines_singleton {t : Text} (hne : t ≠ []) (h : byte '\n' ∉ t.dropLast) : physicalLines t = [t] := by
  induction t with
  | nil => exact absurd rfl hne
  | cons b rest ih =>
    cases rest with
    | nil => rfl
    | cons c rest =>
      rw [List.dropLast_cons_cons, List.mem_cons, not_or] at h
      show pushLine b (physicalLines (c :: rest)) = [b :: c :: rest]
      rw [ih (List.cons_ne_nil _ _) h.2]
      exact if_neg (Ne.symm h.1)

/-- Lines are the physical lines of the text that they make up. -/
theorem physicalLines_flatten {ls : List Text} (h : AreLines ls) (hne : ∀ t ∈ ls, t ≠ []) :
    physicalLines ls.flatten = ls := by
  induction ls with
  | nil => rfl
  | cons t rest ih =>
    have ht := physicalLines_singleton (hne t List.mem_cons_self) (h.inside t List.mem_cons_self)
    cases rest with
    | nil =>
      rw [List.flatten_cons, List.flatten_nil, List.append_nil]
      exact ht
    | cons u rest =>
      have hwhole : t.IsWhole := Or.inr (h.ended t (by rw [List.dropLast_cons_cons]; exact List.mem_cons_self))
      rw [List.flatten_cons, physicalLines_append hwhole, ht, ih h.of_cons fun v hv => hne v (List.mem_cons_of_mem _ hv)]
      rfl

/-- The physical lines of a text make it up. -/
theorem flatten_physicalLines (t : Text) : (physicalLines t).flatten = t := by
  induction t with
  | nil => rfl
  | cons b rest ih =>
    show (pushLine b (physicalLines rest)).flatten = b :: rest
    cases hl : physicalLines rest with
    | nil =>
      rw [hl] at ih
      rw [← ih]
      rfl
    | cons l ls =>
      rw [hl] at ih
      rw [← ih]
      unfold pushLine
      dsimp only
      split
      · rename_i hb
        rw [hb]
        rfl
      · rfl

theorem physicalLines_ne_nil {t l : Text} (h : l ∈ physicalLines t) : l ≠ [] := by
  induction t generalizing l with
  | nil => cases h
  | cons b rest ih =>
    have h : l ∈ pushLine b (physicalLines rest) := h
    cases hl : physicalLines rest with
    | nil =>
      rw [hl] at h
      rw [List.mem_singleton.mp h]
      exact List.cons_ne_nil _ _
    | cons m ls =>
      rw [hl] at h ih
      unfold pushLine at h
      dsimp only at h
      split at h
      · rcases List.mem_cons.mp h with rfl | h
        · exact List.cons_ne_nil _ _
        · exact ih h
      · rcases List.mem_cons.mp h with rfl | h
        · exact List.cons_ne_nil _ _
        · exact ih (List.mem_cons_of_mem _ h)

theorem areLines_physicalLines (t : Text) : AreLines (physicalLines t) := by
  induction t with
  | nil => exact ⟨fun _ h => absurd h List.not_mem_nil, fun _ h => absurd h List.not_mem_nil⟩
  | cons b rest ih =>
    show AreLines (pushLine b (physicalLines rest))
    have hne : ∀ l ∈ physicalLines rest, l ≠ [] := fun _ => physicalLines_ne_nil
    cases hl : physicalLines rest with
    | nil => exact ⟨by simp [pushLine], by simp [pushLine]⟩
    | cons l ls =>
      rw [hl] at ih hne
      unfold pushLine
      dsimp only
      split
      · rename_i hb
        subst hb
        refine ⟨fun t ht => ?_, fun t ht => ?_⟩
        · rcases List.mem_cons.mp ht with rfl | ht
          · exact List.not_mem_nil
          · exact ih.inside t ht
        · rw [List.dropLast_cons_cons] at ht
          rcases List.mem_cons.mp ht with rfl | ht
          · rfl
          · exact ih.ended t ht
      · rename_i hb
        obtain ⟨c, l, rfl⟩ := List.exists_cons_of_ne_nil (hne l List.mem_cons_self)
        refine ⟨fun t ht => ?_, fun t ht => ?_⟩
        · rcases List.mem_cons.mp ht with rfl | ht
          · rw [List.dropLast_cons_cons, List.mem_cons, not_or]
            exact ⟨Ne.symm hb, ih.inside _ List.mem_cons_self⟩
          · exact ih.inside t (List.mem_cons_of_mem _ ht)
        · cases ls with
          | nil => cases ht
          | cons m ls =>
            rw [List.dropLast_cons_cons] at ht
            rcases List.mem_cons.mp ht with rfl | ht
            · rw [List.getLast?_cons_cons]
              exact ih.ended _ (by rw [List.dropLast_cons_cons]; exact List.mem_cons_self)
            · exact ih.ended t (by rw [List.dropLast_cons_cons]; exact List.mem_cons_of_mem _ ht)

/-! ## Contents -/

/-- A physical line begins with its content. -/
theorem prefix_content (t : Text) : content t <+: t := by
  have h : t.reverse.dropWhile isLineEnd <:+ t.reverse := List.dropWhile_suffix _
  have h := List.reverse_prefix.mpr h
  rw [List.reverse_reverse] at h
  exact h

/-- What stands before a line is part of its content, if it does not end in a line ending. -/
theorem content_append {t : Text} {b : UInt8} (hb : isLineEnd b = false) (u : Text) :
    content (t ++ [b] ++ u) = t ++ [b] ++ content u := by
  have h : ∀ v : Text, (v ++ (t ++ [b]).reverse).dropWhile isLineEnd = v.dropWhile isLineEnd ++ (t ++ [b]).reverse := by
    intro v
    induction v with
    | nil =>
      rw [List.reverse_append, List.reverse_singleton, List.nil_append, List.singleton_append,
        List.dropWhile_cons_of_neg (by rw [hb]; exact Bool.false_ne_true)]
      rfl
    | cons c v ih =>
      rw [List.cons_append, List.dropWhile_cons, List.dropWhile_cons, ih]
      split <;> rfl
  unfold content trimEnd
  rw [List.reverse_append, h, List.reverse_append, List.reverse_reverse]

/-- What stands before a line does not decide whether it goes on, if it ends neither in a line ending nor in a
backslash. -/
theorem goesOn_append {t : Text} {b : UInt8} (hb : isLineEnd b = false) (hslash : b ≠ byte '\\') (u : Text) :
    goesOn (t ++ [b] ++ u) = goesOn u := by
  unfold goesOn
  rw [content_append hb]
  cases hu : content u with
  | nil =>
    rw [List.append_nil, Bool.eq_iff_iff, endsWith_backslash, endsWith_backslash, List.getLast?_concat]
    simp [hslash]
  | cons c v => exact endsWith_append (List.cons_ne_nil c v)

end Text

/-! ## Logical lines of one physical line -/

/-- The logical line that a physical line is by itself. -/
def LogicalLine.ofPhysical (position : Position) (t : Text) : LogicalLine where
  body := content t
  terminator := t.drop (content t).length
  position

namespace LogicalLine

@[simp] theorem text_ofPhysical (position : Position) (t : Text) : (ofPhysical position t).text = t := by
  have h : t.take (content t).length = content t := (List.prefix_iff_eq_take.mp (prefix_content t)).symm
  show content t ++ t.drop (content t).length = t
  calc content t ++ t.drop (content t).length
      = t.take (content t).length ++ t.drop (content t).length := by rw [h]
    _ = t := List.take_append_drop _ _

end LogicalLine

/-- A physical line that does not go on, and for which nothing waits, is a logical line. -/
theorem fold_of_complete (position : Position) {t : Text} (h : goesOn t = false) :
    fold none position t = .inr (.ofPhysical position t) := by
  unfold fold
  dsimp only
  rw [if_neg (by rw [Bool.not_eq_true]; exact h)]
  rfl

end Literate
