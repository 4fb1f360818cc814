import Literate.Text.Symbol

/-!
# White space

Two notions of white space stand side by side. A *space* is a white-space character of Unicode; it separates the names
of a directive. A *blank* is one of the five bytes tab, line feed, form feed, carriage return and space; it separates a
directive from its arguments.
-/

namespace Literate

/-- Whether a character is white space. -/
def isSpace (c : Char) : Bool :=
  let n := c.toNat
  (9 ≤ n && n ≤ 13) || n == 0x20 || n == 0x85 || n == 0xA0 || n == 0x1680 || (0x2000 ≤ n && n ≤ 0x200A) ||
    n == 0x2028 || n == 0x2029 || n == 0x202F || n == 0x205F || n == 0x3000

/-- Whether a byte separates a directive from its arguments. -/
def isBlank (b : UInt8) : Bool := b == 9 || b == 10 || b == 12 || b == 13 || b == 32

/-- Whether a byte ends a line. -/
def isLineEnd (b : UInt8) : Bool := b == 10 || b == 13

namespace Text

/-- One more character before a field that is being read and the fields that follow it. -/
def pushField (r : Symbol) : List Symbol × List Text → List Symbol × List Text
  | ([], done) => if isSpace r.char then ([], done) else ([r], done)
  | (field, done) => if isSpace r.char then ([], ofSymbols field :: done) else (r :: field, done)

/-- The fields of a text: what stands between its white space. -/
def fields (t : Text) : List Text :=
  match (symbols t).foldr pushField ([], []) with
  | ([], done) => done
  | (field, done) => ofSymbols field :: done

theorem foldr_pushField_ne_nil {rs : List Symbol} (h : ∀ r ∈ rs, r.bytes ≠ []) :
    (∀ r ∈ (rs.foldr pushField ([], [])).1, r.bytes ≠ []) ∧ ∀ field ∈ (rs.foldr pushField ([], [])).2, field ≠ [] := by
  induction rs with
  | nil => exact ⟨fun _ hr => absurd hr List.not_mem_nil, fun _ hf => absurd hf List.not_mem_nil⟩
  | cons r rs ih =>
    obtain ⟨hfield, hdone⟩ := ih fun s hs => h s (List.mem_cons_of_mem _ hs)
    rw [List.foldr_cons]
    generalize rs.foldr pushField ([], []) = p at hfield hdone
    obtain ⟨field, done⟩ := p
    have hr : r.bytes ≠ [] := h r List.mem_cons_self
    by_cases hs : isSpace r.char = true
    · cases field with
      | nil =>
        rw [show pushField r ([], done) = ([], done) from if_pos hs]
        exact ⟨hfield, hdone⟩
      | cons s field =>
        rw [show pushField r (s :: field, done) = ([], ofSymbols (s :: field) :: done) from if_pos hs]
        refine ⟨fun q hq => absurd hq List.not_mem_nil, fun f hf => ?_⟩
        rcases List.mem_cons.mp hf with rfl | hf
        · exact List.append_ne_nil_of_left_ne_nil (hfield s List.mem_cons_self) _
        · exact hdone f hf
    · have hp : pushField r (field, done) = (r :: field, done) := by cases field <;> exact if_neg hs
      rw [hp]
      refine ⟨fun q hq => ?_, hdone⟩
      rcases List.mem_cons.mp hq with rfl | hq
      · exact hr
      · exact hfield q hq

/-- No field is empty. -/
theorem ne_nil_of_mem_fields {t field : Text} (h : field ∈ fields t) : field ≠ [] := by
  have hbytes : ∀ r ∈ symbols t, r.bytes ≠ [] := fun _ => bytes_ne_nil_of_mem_symbols
  obtain ⟨hfield, hdone⟩ := foldr_pushField_ne_nil hbytes
  unfold fields at h
  generalize (symbols t).foldr pushField ([], []) = p at h hfield hdone
  obtain ⟨_ | ⟨s, last⟩, done⟩ := p
  · exact hdone field h
  · rcases List.mem_cons.mp h with rfl | h
    · exact List.append_ne_nil_of_left_ne_nil (hfield s List.mem_cons_self) _
    · exact hdone field h

/-- The text without its leading white space. -/
def trimLeft (t : Text) : Text := ofSymbols ((symbols t).dropWhile (isSpace ·.char))

/-- The text without its leading and its trailing white space. -/
def trimSpace (t : Text) : Text :=
  ofSymbols (((symbols t).dropWhile (isSpace ·.char)).reverse.dropWhile (isSpace ·.char)).reverse

/-- The text with its leading white space, if there is any, replaced by one space. -/
def collapseLeading (t : Text) : Text :=
  let rest := trimLeft t
  if rest.length < t.length then byte ' ' :: rest else t

/-- Whether a text has a white-space character. -/
def hasSpace (t : Text) : Bool := (chars t).any isSpace

/-- The text without blanks at its ends. -/
def trimBlank (t : Text) : Text := trim isBlank t

end Text

end Literate
