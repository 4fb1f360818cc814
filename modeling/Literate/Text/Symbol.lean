import Literate.Text.Basic

/-!
# Characters of a text

A text is read from left to right as characters in UTF-8. A byte that begins no well-formed sequence is a character of
its own, U+FFFD, but keeps its byte, so that no text is lost: `Text.ofSymbols_symbols` says that the bytes of the
characters make up the text again.
-/

namespace Literate

/-- A character of a text together with the bytes that it was read from. -/
structure Symbol where
  char : Char
  bytes : Text
deriving DecidableEq

namespace Symbol

/-- The character that stands for a byte outside of any well-formed sequence. -/
def replacement : Char := '\uFFFD'

/-- Whether a byte continues a sequence. -/
def isContinuation (b : UInt8) : Bool := 0x80 ≤ b && b ≤ 0xBF

/-- The well-formed sequences of two bytes. -/
def isPair (b c : UInt8) : Bool := 0xC2 ≤ b && b ≤ 0xDF && isContinuation c

/-- The well-formed sequences of three bytes: none for a surrogate, and none that is too long. -/
def isTriple (b c d : UInt8) : Bool :=
  0xE0 ≤ b && b ≤ 0xEF && isContinuation c && isContinuation d && (b != 0xE0 || 0xA0 ≤ c) && (b != 0xED || c ≤ 0x9F)

/-- The well-formed sequences of four bytes: none beyond U+10FFFF, and none that is too long. -/
def isQuadruple (b c d e : UInt8) : Bool :=
  0xF0 ≤ b && b ≤ 0xF4 && isContinuation c && isContinuation d && isContinuation e &&
    (b != 0xF0 || 0x90 ≤ c) && (b != 0xF4 || c ≤ 0x8F)

/-- The first character of the text that begins with `b` and goes on with `rest`. -/
def first (b : UInt8) (rest : Text) : Symbol :=
  if b < 0x80 then ⟨Char.ofNat b.toNat, [b]⟩
  else match rest with
    | [] => ⟨replacement, [b]⟩
    | c :: rest =>
      if isPair b c then ⟨Char.ofNat (b.toNat % 32 * 64 + c.toNat % 64), [b, c]⟩
      else match rest with
        | [] => ⟨replacement, [b]⟩
        | d :: rest =>
          if isTriple b c d then
            ⟨Char.ofNat (b.toNat % 16 * 4096 + c.toNat % 64 * 64 + d.toNat % 64), [b, c, d]⟩
          else match rest with
            | [] => ⟨replacement, [b]⟩
            | e :: _ =>
              if isQuadruple b c d e then
                ⟨Char.ofNat (b.toNat % 8 * 262144 + c.toNat % 64 * 4096 + d.toNat % 64 * 64 + e.toNat % 64),
                 [b, c, d, e]⟩
              else ⟨replacement, [b]⟩

/-- Whether a symbol is a byte outside of any well-formed sequence. -/
def isBroken (r : Symbol) : Bool := r.char == replacement && r.bytes.length == 1

end Symbol

namespace Text

/-- The characters `read` so far, last first, and then those of a text after its first `skip` bytes. -/
def symbolsFrom : (skip : Nat) → (read : List Symbol) → Text → List Symbol
  | _, read, [] => read.reverse
  | skip + 1, read, _ :: rest => symbolsFrom skip read rest
  | 0, read, b :: rest =>
    let r := Symbol.first b rest
    symbolsFrom (r.bytes.length - 1) (r :: read) rest

/-- The characters of a text. -/
def symbols (t : Text) : List Symbol := symbolsFrom 0 [] t

/-- The characters of a text, with U+FFFD in place of bytes that are none. -/
def chars (t : Text) : List Char := (symbols t).map (·.char)

/-- The bytes of a sequence of characters. -/
def ofSymbols (rs : List Symbol) : Text := rs.flatMap (·.bytes)

/-- The text with every byte outside of a well-formed sequence replaced by U+FFFD. -/
def toValid (t : Text) : Text := ofChars (chars t)

/-- Whether a text is well-formed UTF-8. -/
def isValid (t : Text) : Bool := (symbols t).all fun r => !r.isBroken

end Text

/-! ## The bytes of the characters -/

theorem Symbol.bytes_first (b : UInt8) (rest : Text) :
    ∃ n, (Symbol.first b rest).bytes = b :: rest.take n ∧ n ≤ rest.length := by
  unfold Symbol.first
  split
  · exact ⟨0, by simp⟩
  · split
    · exact ⟨0, by simp⟩
    · split
      · exact ⟨1, by simp⟩
      · split
        · exact ⟨0, by simp⟩
        · split
          · exact ⟨2, by simp⟩
          · split
            · exact ⟨0, by simp⟩
            · split
              · exact ⟨3, by simp⟩
              · exact ⟨0, by simp⟩

theorem Text.ofSymbols_symbolsFrom (t : Text) (skip : Nat) (read : List Symbol) :
    Text.ofSymbols (Text.symbolsFrom skip read t) = Text.ofSymbols read.reverse ++ t.drop skip := by
  induction t generalizing skip read with
  | nil => cases skip <;> simp [Text.symbolsFrom]
  | cons b rest ih =>
    cases skip with
    | zero =>
      obtain ⟨n, hn, hle⟩ := Symbol.bytes_first b rest
      have := ih n (Symbol.first b rest :: read)
      simp only [Text.symbolsFrom, hn, List.length_cons, List.length_take, Nat.min_eq_left hle, Nat.add_sub_cancel, this]
      simp [Text.ofSymbols, hn]
    | succ skip => simpa [Text.symbolsFrom] using ih skip read

theorem Text.bytes_ne_nil_of_mem_symbolsFrom {t : Text} {skip : Nat} {read : List Symbol} {r : Symbol}
    (hread : ∀ r ∈ read, r.bytes ≠ []) (h : r ∈ Text.symbolsFrom skip read t) : r.bytes ≠ [] := by
  induction t generalizing skip read with
  | nil => cases skip <;> exact hread r (List.mem_reverse.mp h)
  | cons b rest ih =>
    cases skip with
    | zero =>
      refine ih (fun s hs => ?_) h
      rcases List.mem_cons.mp hs with rfl | hs
      · obtain ⟨n, hn, -⟩ := Symbol.bytes_first b rest
        rw [hn]
        exact List.cons_ne_nil _ _
      · exact hread s hs
    | succ skip => exact ih hread h

/-- No character of a text is without bytes. -/
theorem Text.bytes_ne_nil_of_mem_symbols {t : Text} {r : Symbol} (h : r ∈ Text.symbols t) : r.bytes ≠ [] :=
  Text.bytes_ne_nil_of_mem_symbolsFrom (fun _ hs => absurd hs List.not_mem_nil) h

/-- The bytes of the characters of a text make up the text. -/
@[simp] theorem Text.ofSymbols_symbols (t : Text) : Text.ofSymbols (Text.symbols t) = t := by
  simpa [Text.ofSymbols, Text.symbols] using Text.ofSymbols_symbolsFrom t 0 []

end Literate
