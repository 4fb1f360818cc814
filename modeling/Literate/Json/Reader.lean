import Literate.Datum
import Literate.Text.Digits
import Literate.Text.Symbol

/-!
# Reading JSON

`Json.read?` reads the first value of a text. Every number is a floating-point number, a byte that is no character
becomes U+FFFD, and so does half of a pair of UTF-16 units. A mapping keeps every entry, also those whose key stands
there twice.
-/

namespace Literate.Json

open Text

/-- Whether a byte is white space between tokens. -/
def isBlank (b : UInt8) : Bool := b = byte ' ' || b = byte '\t' || b = byte '\n' || b = byte '\r'

/-- The text from its first token on. -/
def skipBlanks (t : Text) : Text := t.dropWhile isBlank

/-! ## Strings -/

/-- A part of a string: a byte of the text, or a UTF-16 unit that was written as an escape. -/
inductive Piece where
  | byte (b : UInt8)
  | unit (n : Nat)

/-- The byte that an escape of one letter stands for. -/
def letter? (b : UInt8) : Option UInt8 :=
  if b = byte '"' ∨ b = byte '\\' ∨ b = byte '/' then some b
  else if b = byte 'b' then some 8
  else if b = byte 'f' then some 12
  else if b = byte 'n' then some 10
  else if b = byte 'r' then some 13
  else if b = byte 't' then some 9
  else none

/-- The pieces of a string from after its opening quote, and what follows its closing quote. -/
def pieces? (read : List Piece) : Text → Option (List Piece × Text)
  | [] => none
  | 34 :: rest => some (read.reverse, rest)
  | 92 :: 117 :: a :: b :: c :: d :: rest =>
    (digits? 16 [a, b, c, d]).bind fun n => pieces? (.unit n :: read) rest
  | 92 :: e :: rest => (letter? e).bind fun b => pieces? (.byte b :: read) rest
  | b :: rest => if b < 0x20 ∨ b = 92 then none else pieces? (.byte b :: read) rest

/-- The bytes of pieces: two units that are halves of a pair make one character. -/
def bytes : List Piece → Text
  | [] => []
  | .byte b :: rest => b :: bytes rest
  | .unit m :: .unit n :: rest =>
    if 0xD800 ≤ m ∧ m < 0xDC00 ∧ 0xDC00 ≤ n ∧ n < 0xE000 then
      ofChars [Char.ofNat (0x10000 + (m - 0xD800) * 1024 + (n - 0xDC00))] ++ bytes rest
    else ofChars [if 0xD800 ≤ m ∧ m < 0xE000 then Symbol.replacement else Char.ofNat m] ++ bytes (.unit n :: rest)
  | .unit m :: rest => ofChars [if 0xD800 ≤ m ∧ m < 0xE000 then Symbol.replacement else Char.ofNat m] ++ bytes rest

/-- A string from after its opening quote, and what follows it. -/
def string? (t : Text) : Option (Text × Text) := (pieces? [] t).map fun (ps, rest) => (toValid (bytes ps), rest)

/-! ## Numbers -/

/-- Digits at the start of a text, and what follows them; there is at least one. -/
def someDigits? (t : Text) : Option (Text × Text) :=
  let ds := t.takeWhile isDigit
  if ds = [] then none else some (ds, t.drop ds.length)

/-- The digits after a point, if there is one. -/
def fraction? (t : Text) : Option (Text × Text) :=
  match dropStart? t "." with
  | none => some ([], t)
  | some rest => someDigits? rest

/-- The exponent, if there is one. -/
def exponent? (t : Text) : Option (Int × Text) :=
  match afterLetter? 'e' 'E' t with
  | none => some (0, t)
  | some rest =>
    let negative := startsWith rest "-"
    let rest := if negative ∨ startsWith rest "+" then rest.drop 1 else rest
    (someDigits? rest).bind fun (ds, rest) =>
      (digits? 10 ds).map fun n => (if negative then -(n : Int) else n, rest)

/-- A number at the start of a text, and what follows it. It has no needless zeros, and it is finite. -/
def number? (t : Text) : Option (Datum × Text) := do
  let negative := startsWith t "-"
  let (whole, t) ← someDigits? (if negative then t.drop 1 else t)
  if startsWith whole "0" ∧ 1 < whole.length then none
  let (fraction, t) ← fraction? t
  let (exponent, t) ← exponent? t
  let x := Decimal.toFloat (← digits? 10 (whole ++ fraction)) (exponent - fraction.length)
  if x.isFinite then some (.float (if negative then -x else x).toBits, t) else none

/-! ## Values -/

/-- The words that stand for a value. -/
def words : List (String × Datum) := [("null", .null), ("true", .bool true), ("false", .bool false)]

/-- A word at the start of a text, and what follows it. -/
def word? (t : Text) : Option (Datum × Text) :=
  words.findSome? fun (w, d) => (dropStart? t w).map fun rest => (d, rest)

mutual

/-- A value, and what follows it. -/
def value? : (fuel : Nat) → Text → Option (Datum × Text)
  | 0, _ => none
  | fuel + 1, t =>
    match skipBlanks t with
    | [] => none
    | b :: rest =>
      if b = byte '"' then (string? rest).map fun (s, rest) => (.text s, rest)
      else if b = byte '[' then
        match dropStart? (skipBlanks rest) "]" with
        | some rest => some (.list [], rest)
        | none => (items? fuel rest).map fun (ds, rest) => (.list ds, rest)
      else if b = 123 then
        match dropStart? (skipBlanks rest) [125] with
        | some rest => some (.mapping [], rest)
        | none => (entries? fuel rest).map fun (es, rest) => (.mapping es, rest)
      else (word? (b :: rest)).or (number? (b :: rest))

/-- The items of a list up to its closing bracket, and what follows it. -/
def items? : (fuel : Nat) → Text → Option (List Datum × Text)
  | 0, _ => none
  | fuel + 1, t => do
    let (d, rest) ← value? fuel t
    match skipBlanks rest with
    | [] => none
    | b :: rest =>
      if b = byte ']' then some ([d], rest)
      else if b = byte ',' then (items? fuel rest).map fun (ds, rest) => (d :: ds, rest)
      else none

/-- The entries of a mapping up to its closing brace, and what follows it. -/
def entries? : (fuel : Nat) → Text → Option (List (Text × Datum) × Text)
  | 0, _ => none
  | fuel + 1, t => do
    let (key, rest) ← string? (← dropStart? (skipBlanks t) "\"")
    let (d, rest) ← value? fuel (← dropStart? (skipBlanks rest) ":")
    match skipBlanks rest with
    | [] => none
    | b :: rest =>
      if b = 125 then some ([(key, d)], rest)
      else if b = byte ',' then (entries? fuel rest).map fun (es, rest) => ((key, d) :: es, rest)
      else none

end

/-- The largest depth of lists and mappings that are read. -/
def maxDepth : Nat := 10000

/-- The first value of a text, unless it is too deep, and what follows it. -/
def first? (t : Text) : Option (Datum × Text) := (value? (t.length + 1) t).filter fun (d, _) => d.depth ≤ maxDepth

/-- The first value of a text; a word is followed by white space or nothing. -/
def read? (t : Text) : Option Datum :=
  match first? t with
  | some (.list ds, _) => some (.list ds)
  | some (.mapping es, _) => some (.mapping es)
  | some (d, rest) => if rest.head?.all isBlank then some d else none
  | none => none

end Literate.Json
