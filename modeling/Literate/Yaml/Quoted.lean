import Literate.Yaml.Token

/-!
# Scalars between quotes

Between quotes, a line end is a space, and an empty line is a line end; blanks around line ends do not count. A single quote
is doubled between single quotes, and a backslash begins an escape between double quotes. No line between quotes separates
documents.
-/

namespace Literate.Yaml

open Text

/-- A scalar between quotes that is being read. -/
structure Quote where
  /-- Its characters, the last one first. -/
  value : List Char := []
  /-- Whether only blanks have been read of the current line, which is not the first one. -/
  atStart : Bool := false
  place : Place
  /-- The column that blanks at the start of a line have to pass before a tab. -/
  floor : Nat
  /-- How many characters are read. -/
  length : Nat := 1
deriving Repr

namespace Quote

/-- Characters have been read that add some to the value. -/
def add (cs : List Char) (n : Nat) (q : Quote) : Quote :=
  { q with
    value := cs.reverse ++ q.value, atStart := false
    place := { q.place with column := q.place.column + n }
    length := q.length + n }

/-- Characters have been read that add nothing to the value. -/
def skip (n : Nat) (q : Quote) : Quote :=
  { q with place := { q.place with column := q.place.column + n }, length := q.length + n }

/-- The first characters of a line have been read after a line end. -/
def enterLine (column n : Nat) (q : Quote) : Quote :=
  { q with atStart := true, place := ⟨q.place.line + 1, column⟩, length := q.length + n }

/-- A line end has been read before some text. -/
def breakLine? (rest : List Char) (q : Quote) : Option Quote :=
  if atSeparator rest then none
  else
    let value := (if q.atStart then '\n' else ' ') :: q.value.dropWhile (· = ' ')
    some ({ q with value }.enterLine 1 1)

/-- A blank at the start of a line has been read. A tab does not indent. -/
def indent? (c : Char) (q : Quote) : Option Quote :=
  if c = '\t' ∧ q.place.column ≤ q.floor then none else some (q.skip 1)

/-! ## Escapes -/

/-- The character that an escape of one letter stands for. -/
def letter? (c : Char) : Option Char :=
  match c with
  | '0' => some (Char.ofNat 0)
  | 'a' => some (Char.ofNat 7)
  | 'b' => some (Char.ofNat 8)
  | 't' => some (Char.ofNat 9)
  | '\t' => some (Char.ofNat 9)
  | 'n' => some (Char.ofNat 10)
  | 'v' => some (Char.ofNat 11)
  | 'f' => some (Char.ofNat 12)
  | 'r' => some (Char.ofNat 13)
  | 'e' => some (Char.ofNat 27)
  | ' ' => some ' '
  | '"' => some '"'
  | '/' => some '/'
  | '\\' => some '\\'
  | 'N' => some (Char.ofNat 0x85)
  | '_' => some (Char.ofNat 0xA0)
  | 'L' => some (Char.ofNat 0x2028)
  | 'P' => some (Char.ofNat 0x2029)
  | _ => none

/-- The value of a hexadecimal digit. Any other character counts by its distance from zero. -/
def hexValue (c : Char) : Int :=
  if 'A' ≤ c ∧ c ≤ 'F' then c.toNat - 55
  else if 'a' ≤ c ∧ c ≤ 'f' then c.toNat - 87
  else (c.toNat : Int) - 48

/-- The value of hexadecimal digits. -/
def hexNumber (cs : List Char) : Int := cs.foldl (fun n c => n * 16 + hexValue c) 0

/-- The character with a number of 32 bits. -/
def codePoint (n : Int) : Char :=
  let n := n.bmod 4294967296
  if 0 ≤ n ∧ n.toNat.isValidChar then Char.ofNat n.toNat else Symbol.replacement

/-- The character of a number of four digits, which stand first in a text with what follows the backslash. A high surrogate
needs a low one after it. With the character comes the number of characters that are read. -/
def unit? (cs : List Char) : Option (Char × Nat) :=
  let high := hexNumber (cs.take 4)
  if cs.length < 4 then none
  else if 0xD800 ≤ high ∧ high ≤ 0xDBFF then
    match cs.drop 4 with
    | '\\' :: 'u' :: rest =>
      let low := hexNumber (rest.take 4)
      if rest.length < 4 ∨ low < 0xDC00 ∨ 0xDFFF < low then none
      else some (codePoint ((high - 0xD800) * 0x400 + (low - 0xDC00) + 0x10000), 10)
    | _ => none
  else some (codePoint high, 4)

/-- A backslash has been read before some text: the scalar after the escape, and how many more characters the escape
has. -/
def escape? (rest : List Char) (q : Quote) : Option (Quote × Nat) :=
  match rest with
  | [] => some (q.add ['\\'] 1, 0)
  | c :: after =>
    if c = 'x' then
      if after.length < 2 then some (q.add ['x'] 2, 1)
      else some (q.add [codePoint (hexNumber (after.take 2))] 4, 3)
    else if c = 'u' then (unit? after).map fun (d, n) => (q.add [d] (n + 2), n + 1)
    else if c = 'U' then
      if after.length < 8 then none else some (q.add [codePoint (hexNumber (after.take 8))] 10, 9)
    else if c = '\n' then some (q.enterLine 1 2, 1)
    else if c = '\r' then
      let n := if after.head? = some '\n' then 2 else 1
      some (q.enterLine (n + 1) (n + 1), n)
    else (letter? c).map fun d => (q.add [d] 2, 1)

/-- A tab has been read within a line. At the end of a line it does not count. -/
def tab (rest : List Char) (q : Quote) : Quote × Nat :=
  let line := rest.takeWhile fun c => !isBreak c
  if line.all isBlank then (q.skip (line.length + 1), line.length)
  else
    let n := if rest.head? = some '"' then 1 else 2
    ({ q with value := '\t' :: q.value }.skip n, 0)

/-! ## Reading -/

/-- Reads on between single quotes. -/
def single? : (skipped : Nat) → Quote → List Char → Option Quote
  | _, _, [] => none
  | n + 1, q, _ :: rest => single? n q rest
  | 0, q, c :: rest =>
    if isBreak c then (q.breakLine? rest).bind fun q => single? 0 q rest
    else if q.atStart ∧ isBlank c then (q.indent? c).bind fun q => single? 0 q rest
    else if c ≠ '\'' then single? 0 (q.add [c] 1) rest
    else if rest.head? = some '\'' then single? 1 ({ q with value := c :: q.value }.skip 2) rest
    else some (q.skip 1)

/-- Reads on between double quotes. -/
def double? : (skipped : Nat) → Quote → List Char → Option Quote
  | _, _, [] => none
  | n + 1, q, _ :: rest => double? n q rest
  | 0, q, c :: rest =>
    if isBreak c then (q.breakLine? rest).bind fun q => double? 0 q rest
    else if q.atStart ∧ isBlank c then (q.indent? c).bind fun q => double? 0 q rest
    else if c = '\\' then (q.escape? rest).bind fun (q, n) => double? n q rest
    else if c = '\t' then double? (q.tab rest).2 (q.tab rest).1 rest
    else if c ≠ '"' then double? 0 (q.add [c] 1) rest
    else some (q.skip 1)

end Quote

/-- A scalar between quotes: what stands after the first quote, at a place. The result holds the place after the last
quote. -/
def quoted? (quote : Char) (place : Place) (floor : Nat) (rest : List Char) : Option Quote :=
  let q : Quote := { place := { place with column := place.column + 1 }, floor }
  if quote = '"' then Quote.double? 0 q rest else Quote.single? 0 q rest

end Literate.Yaml
