import Literate.Shell.Syntax
import Literate.Word

/-!
# Arithmetic

Integers of 64 bits with the operators of arithmetic expansions. An expression is read from its text by binding strength
(`Arithmetic.read?`) and then evaluated with the values of parameters, which it can change (`Arithmetic.evaluate`).
-/

namespace Literate.Shell

open Text

/-- An arithmetic expression. -/
inductive Arithmetic where
  | number (n : Int)
  | name (t : Text)
  | negated (e : Arithmetic)
  | complement (e : Arithmetic)
  | not (e : Arithmetic)
  | binary (operator : Text) (a b : Arithmetic)
  | and (a b : Arithmetic)
  | or (a b : Arithmetic)
  | choice (test yes no : Arithmetic)
  /-- A new value for a parameter: that of an expression, or the old value joined to it by an operator. -/
  | assign (t : Text) (operator : Option Text) (e : Arithmetic)
deriving DecidableEq

namespace Arithmetic

/-! ## Reading -/

/-- A part of the text of an expression. -/
inductive Lexeme where
  | number (n : Int)
  | name (t : Text)
  | symbol (t : Text)
deriving DecidableEq

/-- The operators of more than one byte; of two that begin alike the longer one stands first. -/
def longSymbols : List Text :=
  ["<<=", ">>=", "&&", "||", "<<", ">>", "<=", ">=", "==", "!=", "+=", "-=", "*=", "/=", "%=", "&=", "|=", "^="]

/-- The operators and brackets of one byte. -/
def shortSymbols : List Text :=
  ["+", "-", "*", "/", "%", "<", ">", "=", "!", "~", "&", "|", "^", "?", ":", "(", ")"]

/-- The digits at the start of a text, their base, and the length of the number. A number that is too large is the largest
one. -/
def numberAt (t : Text) : Int × Nat :=
  let isHex := fun (b : UInt8) => (digitValue? b).isSome
  let isOctal := fun (b : UInt8) => byte '0' ≤ b && b ≤ byte '7'
  let make := fun (base : Nat) (digits : Text) (n : Nat) =>
    (((Nat.min ((digits? base digits).getD 0) (Word.half - 1) : Nat) : Int), n + digits.length)
  if (startsWith t "0x" ∨ startsWith t "0X") ∧ (t.drop 2).head?.any isHex then make 16 ((t.drop 2).takeWhile isHex) 2
  else if startsWith t "0" then make 8 (t.takeWhile isOctal) 0
  else make 10 (t.takeWhile isDigit) 0

/-- The lexemes of a text after its first `skip` bytes. A byte without a meaning is an operator of its own, which can stand
nowhere. -/
def lexemes : (skip : Nat) → Text → List Lexeme
  | _, [] => []
  | skip + 1, _ :: rest => lexemes skip rest
  | 0, b :: rest =>
    if [byte ' ', byte '\t', byte '\n'].contains b then lexemes 0 rest
    else if isDigit b then
      let (n, length) := numberAt (b :: rest)
      .number n :: lexemes (length - 1) rest
    else if isNameStart b then
      let name := (b :: rest).takeWhile isNameByte
      .name name :: lexemes (name.length - 1) rest
    else
      let s := ((longSymbols ++ shortSymbols).find? (startsWith (b :: rest) ·)).getD [b]
      .symbol s :: lexemes (s.length - 1) rest

/-- How strongly an operator binds; `&&` and `||` come after all of these. -/
def strength? (s : Text) : Option Nat :=
  if ([("*" : Text), "/", "%"]).contains s then some 8
  else if ([("+" : Text), "-"]).contains s then some 7
  else if ([("<<" : Text), ">>"]).contains s then some 6
  else if ([("<" : Text), "<=", ">", ">="]).contains s then some 5
  else if ([("==" : Text), "!="]).contains s then some 4
  else if s = ("&" : Text) then some 3
  else if s = ("^" : Text) then some 2
  else if s = ("|" : Text) then some 1
  else none

/-- The operator that an assignment joins with: none for a plain assignment. -/
def assignment? (s : Text) : Option (Option Text) :=
  if s = ("=" : Text) then some none
  else if endsWith s "=" ∧ !([("<=" : Text), ">=", "==", "!="]).contains s then some (some s.dropLast)
  else none

/-- The message for a place where an operand is missing. -/
def operandMissing : Text := "expecting primary"

mutual

/-- An operand. -/
def operand : (n : Nat) → List Lexeme → Except Text (Arithmetic × List Lexeme)
  | 0, _ => .error operandMissing
  | n + 1, ls =>
    match ls with
    | .number k :: rest => .ok (.number k, rest)
    | .name t :: rest => .ok (.name t, rest)
    | .symbol s :: rest =>
      if s = ("(" : Text) then
        match assignment n rest with
        | .ok (e, .symbol close :: rest) => if close = (")" : Text) then .ok (e, rest) else .error "expecting ')'"
        | .ok _ => .error "expecting ')'"
        | .error m => .error m
      else if s = ("-" : Text) then (operand n rest).map fun (e, rest) => (.negated e, rest)
      else if s = ("+" : Text) then operand n rest
      else if s = ("!" : Text) then (operand n rest).map fun (e, rest) => (.not e, rest)
      else if s = ("~" : Text) then (operand n rest).map fun (e, rest) => (.complement e, rest)
      else .error operandMissing
    | [] => .error operandMissing

/-- The operators of at least some strength after an expression, with their operands. -/
def binaries : (n : Nat) → (least : Nat) → Arithmetic → List Lexeme → Except Text (Arithmetic × List Lexeme)
  | 0, _, _, _ => .error operandMissing
  | n + 1, least, a, ls =>
    match ls with
    | .symbol s :: rest =>
      match strength? s with
      | some k =>
        if k < least then .ok (a, ls)
        else
          match operand n rest with
          | .error m => .error m
          | .ok (b, rest) =>
            match binaries n (k + 1) b rest with
            | .error m => .error m
            | .ok (b, rest) => binaries n least (.binary s a b) rest
      | none => .ok (a, ls)
    | _ => .ok (a, ls)

/-- Operands that are joined by `&&`. -/
def conjunction : (n : Nat) → List Lexeme → Except Text (Arithmetic × List Lexeme)
  | 0, _ => .error operandMissing
  | n + 1, ls =>
    match operand n ls with
    | .error m => .error m
    | .ok (a, rest) =>
      match binaries n 0 a rest with
      | .error m => .error m
      | .ok (a, rest) =>
        if rest.head? = some (.symbol "&&") then
          (conjunction n rest.tail).map fun (b, rest) => (.and a b, rest)
        else .ok (a, rest)

/-- Conjunctions that are joined by `||`. -/
def disjunction : (n : Nat) → List Lexeme → Except Text (Arithmetic × List Lexeme)
  | 0, _ => .error operandMissing
  | n + 1, ls =>
    match conjunction n ls with
    | .error m => .error m
    | .ok (a, rest) =>
      if rest.head? = some (.symbol "||") then (disjunction n rest.tail).map fun (b, rest) => (.or a b, rest)
      else .ok (a, rest)

/-- A choice between two expressions, or a disjunction. -/
def conditional : (n : Nat) → List Lexeme → Except Text (Arithmetic × List Lexeme)
  | 0, _ => .error operandMissing
  | n + 1, ls =>
    match disjunction n ls with
    | .error m => .error m
    | .ok (a, rest) =>
      if rest.head? = some (.symbol "?") then
        match assignment n rest.tail with
        | .error m => .error m
        | .ok (b, rest) =>
          if rest.head? = some (.symbol ":") then
            (conditional n rest.tail).map fun (c, rest) => (.choice a b c, rest)
          else .error "expecting ':'"
      else .ok (a, rest)

/-- An assignment, or an expression without one. -/
def assignment : (n : Nat) → List Lexeme → Except Text (Arithmetic × List Lexeme)
  | 0, _ => .error operandMissing
  | n + 1, ls =>
    match ls with
    | .name t :: .symbol s :: rest =>
      match assignment? s with
      | some operator => (assignment n rest).map fun (e, rest) => (.assign t operator e, rest)
      | none => conditional n ls
    | _ => conditional n ls

end

/-- The expression of a text, or the message that says what is wrong. -/
def read? (t : Text) : Except Text Arithmetic :=
  let ls := lexemes 0 t
  match assignment (8 * ls.length + 8) ls with
  | .error m => .error m
  | .ok (e, []) => .ok e
  | .ok _ => .error "expecting EOF"

/-! ## Evaluating -/

/-- The number of a truth value. -/
def ofTruth (b : Bool) : Int := if b then 1 else 0

/-- The bits of an integer. -/
def bits (n : Int) : Nat := (n.emod Word.count).toNat

/-- The value of an operator; none for a division by zero. -/
def combine? (operator : Text) (a b : Int) : Option Int :=
  if operator = ("+" : Text) then some (Word.wrap (a + b))
  else if operator = ("-" : Text) then some (Word.wrap (a - b))
  else if operator = ("*" : Text) then some (Word.wrap (a * b))
  else if operator = ("/" : Text) then if b = 0 then none else some (Word.wrap (a.tdiv b))
  else if operator = ("%" : Text) then if b = 0 then none else some (a.tmod b)
  else if operator = ("<<" : Text) then some (Word.wrap (a * (Nat.pow 2 (bits b % 64) : Nat)))
  else if operator = (">>" : Text) then some (a.fdiv (Nat.pow 2 (bits b % 64) : Nat))
  else if operator = ("<" : Text) then some (ofTruth (a < b))
  else if operator = ("<=" : Text) then some (ofTruth (a ≤ b))
  else if operator = (">" : Text) then some (ofTruth (b < a))
  else if operator = (">=" : Text) then some (ofTruth (b ≤ a))
  else if operator = ("==" : Text) then some (ofTruth (a = b))
  else if operator = ("!=" : Text) then some (ofTruth (a ≠ b))
  else if operator = ("&" : Text) then some (Word.wrap ((bits a).land (bits b)))
  else if operator = ("^" : Text) then some (Word.wrap ((bits a).xor (bits b)))
  else some (Word.wrap ((bits a).lor (bits b)))

/-- The parameters with their values. -/
abbrev Values := List (Text × Text)

/-- The number that a value stands for; an empty one stands for zero. -/
def ofValue? (t : Text) : Option Int :=
  let t := t.dropWhile fun b => [byte ' ', byte '\t', byte '\n'].contains b
  let negative := startsWith t "-"
  let digits := if negative ∨ startsWith t "+" then t.drop 1 else t
  if t = [] then some 0
  else if !digits.head?.any isDigit then none
  else
    let (n, length) := numberAt digits
    if length = digits.length then some (if negative then -n else n) else none

/-- The value of an expression, and the values that it gives to parameters, latest first; or the message that says why it
has none. -/
def evaluate (value : Text → Text) : Arithmetic → Values → Except Text (Int × Values)
  | number n, vs => .ok (n, vs)
  | name t, vs =>
    let v := (vs.lookup t).getD (value t)
    match ofValue? v with
    | some n => .ok (n, vs)
    | none => .error ("Illegal number: " ++ v)
  | negated e, vs => (e.evaluate value vs).map fun (n, vs) => (Word.wrap (-n), vs)
  | complement e, vs => (e.evaluate value vs).map fun (n, vs) => (-n - 1, vs)
  | not e, vs => (e.evaluate value vs).map fun (n, vs) => (ofTruth (n = 0), vs)
  | binary operator a b, vs =>
    match a.evaluate value vs with
    | .error m => .error m
    | .ok (m, vs) =>
      match b.evaluate value vs with
      | .error m => .error m
      | .ok (n, vs) =>
        match combine? operator m n with
        | some k => .ok (k, vs)
        | none => .error "division by zero"
  | and a b, vs =>
    match a.evaluate value vs with
    | .error m => .error m
    | .ok (m, vs) => if m = 0 then .ok (0, vs) else (b.evaluate value vs).map fun (n, vs) => (ofTruth (n ≠ 0), vs)
  | or a b, vs =>
    match a.evaluate value vs with
    | .error m => .error m
    | .ok (m, vs) => if m ≠ 0 then .ok (1, vs) else (b.evaluate value vs).map fun (n, vs) => (ofTruth (n ≠ 0), vs)
  | choice a b c, vs =>
    match a.evaluate value vs with
    | .error m => .error m
    | .ok (m, vs) => if m ≠ 0 then b.evaluate value vs else c.evaluate value vs
  | assign t operator e, vs =>
    let old : Except Text Int :=
      match operator with
      | none => .ok 0
      | some _ =>
        let v := (vs.lookup t).getD (value t)
        match ofValue? v with
        | some n => .ok n
        | none => .error ("Illegal number: " ++ v)
    match old with
    | .error m => .error m
    | .ok m =>
      match e.evaluate value vs with
      | .error m => .error m
      | .ok (n, vs) =>
        match operator with
        | none => .ok (n, (t, ofInt n) :: vs)
        | some o =>
          match combine? o m n with
          | some k => .ok (k, (t, ofInt k) :: vs)
          | none => .error "division by zero"

end Arithmetic

end Literate.Shell
