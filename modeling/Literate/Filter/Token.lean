import Literate.Text.Space
import Literate.Unicode.Category

/-!
# Tokens of filters

A filter is an expression over the fields of an entry. Its text is cut into names, numbers, texts in quotes, operators and
brackets; white space and comments separate them.
-/

namespace Literate.Filter

/-- A token of a filter. -/
inductive Token where
  | name (t : String)
  | number (digits : List Char)
  | text (t : Text)
  | op (t : String)
  | bracket (c : Char)
deriving DecidableEq, Repr

namespace Token

open Text

/-- Whether a character can be part of a name. -/
def isWordChar (c : Char) : Bool := c == '_' || c == '$' || Unicode.isLetter c || Unicode.isDigit c

/-- The words that are operators. -/
def wordOperators : List String :=
  ["in", "or", "and", "matches", "contains", "startsWith", "endsWith", "let", "if", "else", "not"]

/-! ## Texts in quotes -/

/-- The value of a digit in a base up to sixteen. -/
def digit? (base : Nat) (c : Char) : Option Nat :=
  let v := if '0' ≤ c ∧ c ≤ '9' then c.toNat - 48
    else if 'a' ≤ c ∧ c ≤ 'f' then c.toNat - 87
    else if 'A' ≤ c ∧ c ≤ 'F' then c.toNat - 55
    else 16
  if v < base then some v else none

/-- The value of exactly `n` digits, and what follows them. -/
def digits? (base : Nat) : (n : Nat) → (value : Nat) → List Char → Option (Nat × List Char)
  | 0, value, cs => some (value, cs)
  | n + 1, value, cs =>
    match cs with
    | [] => none
    | c :: rest => (digit? base c).bind fun d => digits? base n (value * base + d) rest

/-- The value of one to six digits up to a closing brace, and what follows it. -/
def braced? (cs : List Char) : Option (Nat × List Char) :=
  let ds := cs.takeWhile fun c => (digit? 16 c).isSome
  match cs.drop ds.length with
  | c :: rest =>
    if c.toNat = 125 ∧ ds ≠ [] ∧ ds.length ≤ 6 then (digits? 16 ds.length 0 ds).map fun (n, _) => (n, rest) else none
  | [] => none

/-- The bytes of a code point. There is no character for a surrogate, and of a number with the highest of 32 bits set
only the lowest byte is kept. -/
def codePoint? (n : Nat) : Option Text :=
  if 0x80000000 ≤ n then some [n.toUInt8]
  else if 0x10FFFF < n then none
  else some (ofChars [if n.isValidChar then Char.ofNat n else Symbol.replacement])

/-- The bytes that an escape stands for after its backslash, and what follows it. -/
def escape? (quote : Char) : List Char → Option (Text × List Char)
  | [] => none
  | c :: rest =>
    let numeric := fun (found : Option (Nat × List Char)) =>
      found.bind fun (n, rest) => (codePoint? n).map fun t => (t, rest)
    if c = quote ∨ c = '\\' then some ([byte c], rest)
    else if c = 'a' then some ([7], rest)
    else if c = 'b' then some ([8], rest)
    else if c = 'f' then some ([12], rest)
    else if c = 'n' then some ([10], rest)
    else if c = 'r' then some ([13], rest)
    else if c = 't' then some ([9], rest)
    else if c = 'v' then some ([11], rest)
    else if c = 'x' then numeric (digits? 16 2 0 rest)
    else if c = 'u' then
      match rest with
      | '\x7b' :: rest => numeric (braced? rest)
      | rest => numeric (digits? 16 4 0 rest)
    else if c = 'U' then numeric (digits? 16 8 0 rest)
    else if '0' ≤ c ∧ c ≤ '3' then numeric (digits? 8 2 (c.toNat - 48) rest)
    else none

/-- A text up to its closing quote, and what follows it; at most `n` characters are read. A carriage return stands for a
line feed, and a line feed is not allowed. -/
def quoted? (quote : Char) : (n : Nat) → List Char → Option (Text × List Char)
  | 0, _ => none
  | n + 1, cs =>
    match cs with
    | [] => none
    | c :: rest =>
      if c = quote then some ([], rest)
      else if c = '\n' then none
      else if c = '\\' then do
        let (e, rest) ← escape? quote rest
        let (t, rest) ← quoted? quote n rest
        return (e ++ t, rest)
      else (quoted? quote n rest).map fun (t, rest) => (ofChars [if c = '\r' then '\n' else c] ++ t, rest)

/-- A text up to its closing backtick, which is doubled inside of it, and what follows it. -/
def raw? : List Char → Option (Text × List Char)
  | [] => none
  | c :: rest =>
    if c.toNat = 96 then
      match rest with
      | d :: rest' => if d.toNat = 96 then (raw? rest').map fun (t, after) => (96 :: t, after) else some ([], rest)
      | [] => some ([], [])
    else (raw? rest).map fun (t, after) => (ofChars [c] ++ t, after)

/-! ## Numbers -/

/-- The digits that a number may have after its first characters. -/
def numberDigits (cs : List Char) : Char → Bool :=
  match cs with
  | '0' :: c :: _ =>
    if c = 'x' ∨ c = 'X' then fun d => (digit? 16 d).isSome || d == '_'
    else if c = 'o' ∨ c = 'O' then fun d => (digit? 8 d).isSome || d == '_'
    else if c = 'b' ∨ c = 'B' then fun d => (digit? 2 d).isSome || d == '_'
    else fun d => d.isDigit || d == '_'
  | _ => fun d => d.isDigit || d == '_'

/-- The number of characters that mark the base of a number. -/
def baseMark (cs : List Char) : Nat :=
  match cs with
  | '0' :: c :: _ => if c ∈ ['x', 'X', 'o', 'O', 'b', 'B'] then 2 else 0
  | _ => 0

/-- A number at the start of a text, and what follows it. Two dots after it do not belong to it. -/
def number? (cs : List Char) : Option (List Char × List Char) :=
  let p := numberDigits cs
  let mark := baseMark cs
  let head := cs.take mark ++ (cs.drop mark).takeWhile p
  let rest := cs.drop head.length
  let finish := fun (digits rest : List Char) =>
    match rest with
    | c :: _ => if isWordChar c then none else some (digits, rest)
    | [] => some (digits, rest)
  let exponent := fun (digits rest : List Char) =>
    match rest with
    | e :: after =>
      if e = 'e' ∨ e = 'E' then
        let sign := match after with
          | s :: _ => if s = '+' ∨ s = '-' then [s] else []
          | [] => []
        let after := after.drop sign.length
        let ds := after.takeWhile p
        finish (digits ++ [e] ++ sign ++ ds) (after.drop ds.length)
      else finish digits rest
    | [] => finish digits rest
  match rest with
  | '.' :: '.' :: _ => some (head, rest)
  | '.' :: after =>
    let fraction := after.takeWhile p
    exponent (head ++ ['.'] ++ fraction) (after.drop fraction.length)
  | _ => exponent head rest

/-! ## Cutting -/

/-- What follows a comment that ends with a star and a slash. -/
def afterComment? : List Char → Option (List Char)
  | [] => none
  | '*' :: '/' :: rest => some rest
  | _ :: rest => afterComment? rest

/-- A word at the start of a text, and what follows it. -/
def word (cs : List Char) : List Char × List Char := cs.span isWordChar

/-- The tokens that a text begins with, and what follows them: none for white space and comments, and two for a mark with
a word right after it. -/
def next? (c : Char) (rest : List Char) : Option (List Token × List Char) :=
  let double := fun (seconds : List Char) =>
    match rest with
    | d :: rest' => if d ∈ seconds then some ([op (String.ofList [c, d])], rest') else some ([op c.toString], rest)
    | [] => some ([op c.toString], rest)
  if isSpace c then some ([], rest)
  else if c = '\'' ∨ c = '"' then (quoted? c (rest.length + 1) rest).map fun (t, rest) => ([text t], rest)
  else if c.toNat = 96 then (raw? rest).map fun (t, rest) => ([text t], rest)
  else if '0' ≤ c ∧ c ≤ '9' then (number? (c :: rest)).map fun (t, rest) => ([number t], rest)
  else if c = '?' then double ['.', '?']
  else if c = '/' then
    match rest with
    | '/' :: rest => some ([], rest.dropWhile (· ≠ '\n'))
    | '*' :: rest => (afterComment? rest).map fun rest => ([], rest)
    | _ => some ([op "/"], rest)
  else if c = '#' then
    let (w, rest) := word rest
    some (op "#" :: if w.isEmpty then [] else [name (String.ofList w)], rest)
  else if c = '|' then double ['|']
  else if c = ':' then double [':']
  else if c ∈ ['(', '[', '{', ')', ']', '}'] then some ([bracket c], rest)
  else if c ∈ [',', ';', '%', '+', '-', '^'] then some ([op c.toString], rest)
  else if c ∈ ['&', '!', '=', '*', '<', '>'] then double ['&', '=', '*']
  else if c = '.' then
    match rest with
    | d :: _ =>
      if '0' ≤ d ∧ d ≤ '9' then (number? (c :: rest)).map fun (t, rest) => ([number t], rest)
      else double ['.']
    | [] => double ['.']
  else if isWordChar c then
    let (w, rest) := word (c :: rest)
    let t := String.ofList w
    some ([if t ∈ wordOperators then op t else name t], rest)
  else none

/-- The tokens of a text after those `read` so far, last first; at most `n` steps are taken. -/
def scanFrom : (n : Nat) → (read : List Token) → List Char → Option (List Token)
  | 0, _, _ => none
  | n + 1, read, cs =>
    match cs with
    | [] => some read.reverse
    | c :: rest => (next? c rest).bind fun (tokens, rest) => scanFrom n (tokens.reverse ++ read) rest

/-- The tokens of a text. -/
def scan (t : Text) : Option (List Token) :=
  let cs := Text.chars t
  scanFrom (cs.length + 1) [] cs

end Token

end Literate.Filter
