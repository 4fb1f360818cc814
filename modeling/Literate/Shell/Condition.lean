import Literate.Disk
import Literate.Text.Digits
import Literate.Word

/-!
# Conditions

The arguments of `test` and `[` form a condition: tests of texts, numbers and files, joined by `-a` and `-o`, with `!` and
round brackets. What an argument means depends on those after it: `Condition.kind`.
-/

namespace Literate.Shell.Condition

open Text

/-- What an argument is taken for. -/
inductive Kind where
  | operand
  | unary
  | binary
  | not
  | and
  | or
  | opening
  | closing
  | absent
deriving DecidableEq

/-- The meaning of an operator. -/
def operator? (t : Text) : Option Kind :=
  let unary : List Text := ["-r", "-w", "-x", "-e", "-f", "-d", "-c", "-b", "-p", "-u", "-g", "-k", "-s", "-t", "-z", "-n", "-h",
    "-L", "-S", "-O", "-G"]
  let binary : List Text := ["=", "!=", "<", ">", "-eq", "-ne", "-ge", "-gt", "-le", "-lt", "-nt", "-ot", "-ef"]
  if unary.contains t then some .unary
  else if binary.contains t then some .binary
  else if t = ("!" : Text) then some .not
  else if t = ("-a" : Text) then some .and
  else if t = ("-o" : Text) then some .or
  else if t = ("(" : Text) then some .opening
  else if t = (")" : Text) then some .closing
  else none

/-- Whether an operator with one operand is itself an operand, because of the arguments after it. -/
def isPlain : List Text → Bool
  | [] => true
  | [_] => false
  | t :: _ => operator? t = some .binary

/-- What the first of some arguments is taken for. -/
def kind : List Text → Kind
  | [] => .absent
  | t :: rest =>
    match operator? t with
    | none => .operand
    | some .unary => if isPlain rest then .operand else .unary
    | some .opening => if rest.isEmpty then .operand else .opening
    | some k => k

/-- An integer, or the message that there is none. -/
def integer (t : Text) : Except Text Int :=
  let body := Text.trim (fun b => b = 32 || (9 ≤ b && b ≤ 13)) t
  let negative := startsWith body "-"
  let digits := if negative ∨ startsWith body "+" then body.drop 1 else body
  match (digits? 10 digits).map fun (n : Nat) => if negative then -(n : Int) else (n : Int) with
  | some n => if Word.fits n then .ok n else .error ("Illegal number: " ++ t)
  | none => .error ("Illegal number: " ++ t)

/-- The value of a test of a file. -/
def ofFile (d : Disk) (operator path : Text) : Bool :=
  match d.locate path with
  | .error _ => false
  | .ok l =>
    let isDevice := (d.device? l).isSome
    if operator = ("-d" : Text) ∨ operator = ("-x" : Text) then d.isFolder l
    else if operator = ("-f" : Text) then !d.isFolder l && !isDevice
    else if operator = ("-c" : Text) then isDevice
    else if operator = ("-s" : Text) then d.isFolder l || d.text? l ≠ some []
    else [("-e" : Text), "-r", "-w", "-O", "-G"].contains operator

/-- The value of a test with one operand. -/
def unary (d : Disk) (operator a : Text) : Except Text Bool :=
  if operator = ("-z" : Text) then .ok a.isEmpty
  else if operator = ("-n" : Text) then .ok !a.isEmpty
  else if operator = ("-t" : Text) then (integer a).map fun _ => false
  else .ok (ofFile d operator a)

/-- The value of a test with two operands. -/
def binary (operator a b : Text) : Except Text Bool :=
  if operator = ("=" : Text) then .ok (a = b)
  else if operator = ("!=" : Text) then .ok (a ≠ b)
  else if operator = ("<" : Text) then .ok (a < b)
  else if operator = (">" : Text) then .ok (b < a)
  else if operator = ("-nt" : Text) ∨ operator = ("-ot" : Text) then .ok false
  else if operator = ("-ef" : Text) then .ok (a = b)
  else do
    let m ← integer a
    let n ← integer b
    if operator = ("-eq" : Text) then return m = n
    else if operator = ("-ne" : Text) then return m ≠ n
    else if operator = ("-ge" : Text) then return n ≤ m
    else if operator = ("-gt" : Text) then return n < m
    else if operator = ("-le" : Text) then return m ≤ n
    else return m < n

mutual

/-- The value of tests that are joined by `-o`, and the arguments from the last one that was used. -/
def disjunction (d : Disk) : (n : Nat) → List Text → Except Text (Bool × List Text)
  | 0, w => .ok (false, w)
  | n + 1, w => do
    let (a, w) ← conjunction d n w
    if kind (w.drop 1) = .or then
      let (b, w) ← disjunction d n (w.drop 2)
      return (a || b, w)
    else return (a, w)

/-- The value of tests that are joined by `-a`. -/
def conjunction (d : Disk) : (n : Nat) → List Text → Except Text (Bool × List Text)
  | 0, w => .ok (false, w)
  | n + 1, w => do
    let (a, w) ← negation d n w
    if kind (w.drop 1) = .and then
      let (b, w) ← conjunction d n (w.drop 2)
      return (a && b, w)
    else return (a, w)

/-- The value of a test after any number of `!`. -/
def negation (d : Disk) : (n : Nat) → List Text → Except Text (Bool × List Text)
  | 0, w => .ok (false, w)
  | n + 1, w =>
    if kind w = .not then do
      let (a, w) ← negation d n (if kind (w.drop 1) = .absent then w else w.drop 1)
      return (!a, w)
    else primary d n w

/-- The value of a single test. -/
def primary (d : Disk) : (n : Nat) → List Text → Except Text (Bool × List Text)
  | 0, w => .ok (false, w)
  | n + 1, w =>
    match kind w, w with
    | .absent, _ => .ok (false, w)
    | .opening, _ :: rest =>
      if kind rest = .closing then .ok (false, rest)
      else do
        let (a, w) ← disjunction d n rest
        if kind (w.drop 1) = .closing then return (a, w.drop 1) else throw (ofString "closing paren expected")
    | .unary, o :: a :: rest => do return (← unary d o a, a :: rest)
    | .unary, o :: [] => .error (o ++ ": argument expected")
    | _, a :: o :: rest =>
      if kind (o :: rest) = .binary then
        match rest with
        | b :: rest => do return (← binary o a b, b :: rest)
        | [] => .error (o ++ ": argument expected")
      else .ok (!a.isEmpty, w)
    | _, a :: [] => .ok (!a.isEmpty, w)
    | _, [] => .ok (false, w)

end

/-- The value of some arguments, or the message that says what is wrong with them. -/
def evaluate (d : Disk) (args : List Text) : Except Text Bool :=
  let whole := fun (args : List Text) => do
    let (a, w) ← disjunction d (4 * args.length + 4) args
    match w with
    | t :: _ :: _ => throw (onlyIf (t ≠ []) (t ++ ": ") ++ ofString "unexpected operator")
    | _ => return a
  match args with
  | [] => .ok false
  | [a, o, b] =>
    if operator? o = some .binary then binary o a b
    else if a = ("(" : Text) ∧ b = (")" : Text) then whole [o]
    else if a = ("!" : Text) then (whole [o, b]).map (!·)
    else whole args
  | [a, b, c, e] =>
    if a = ("(" : Text) ∧ e = (")" : Text) then whole [b, c]
    else if a = ("!" : Text) then
      if operator? c = some .binary then (binary c b e).map (!·) else (whole [b, c, e]).map (!·)
    else whole args
  | args => whole args

end Literate.Shell.Condition
