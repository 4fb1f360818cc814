import Literate.Decimal.Reader
import Literate.Shell.Escape
import Literate.Shell.Tool
import Literate.Word

/-!
# Printing arguments

`echo` writes its arguments with spaces between them. `printf` writes them as a format says, which is used again as long as
arguments are left.
-/

namespace Literate.Shell

open Text

/-- Writes arguments with spaces between them, and a line feed unless the first one is `-n`. -/
def echo (args : List Text) : Text :=
  let silent := args.head? = some "-n"
  let (t, ended) := Escape.evaluate (join " " (if silent then args.drop 1 else args))
  if silent ∨ ended then t else t ++ "\n"

namespace Printf

/-! ## Numbers -/

/-- A number at the start of a text. -/
structure Parsed (α : Type) where
  value : α
  /-- What follows the number. -/
  rest : Text
  /-- Whether there is a number at all. -/
  found : Bool
  /-- Whether the number is too large. -/
  isTooLarge : Bool := false

/-- Whether a byte is white space. -/
def isSpace (b : UInt8) : Bool := b = 32 || (9 ≤ b && b ≤ 13)

/-- The integer at the start of a text, in base ten, eight or sixteen. -/
def integer (t : Text) : Parsed Int :=
  let body := t.dropWhile isSpace
  let negative := startsWith body "-"
  let body := if negative ∨ startsWith body "+" then body.drop 1 else body
  let isHexDigit := fun (b : UInt8) => (digitValue? b).isSome
  let hex := (startsWith body "0x" ∨ startsWith body "0X") ∧ (body.drop 2).head?.any isHexDigit
  let base := if hex then 16 else if startsWith body "0" then 8 else 10
  let body := if hex then body.drop 2 else body
  let digits := body.takeWhile fun b => (digitValue? b).any (· < base)
  let n : Nat := (digits? base digits).getD 0
  let found := !digits.isEmpty
  ⟨if negative then -(n : Int) else n, if found then body.drop digits.length else t, found, false⟩

/-- The integer, if it fits into a signed word. -/
def signed (t : Text) : Parsed Int :=
  let p := integer t
  if Word.fits p.value then p
  else { p with value := if p.value < 0 then -(Word.half : Int) else (Word.half : Int) - 1, isTooLarge := true }

/-- The integer modulo the number of words, if it fits into a word with or without a sign. -/
def unsigned (t : Text) : Parsed Int :=
  let p := integer t
  if p.value.natAbs < Word.count then { p with value := p.value.emod Word.count }
  else { p with value := (Word.count : Int) - 1, isTooLarge := true }

/-- The floating-point number at the start of a text. -/
def float (t : Text) : Parsed Float :=
  let body := t.dropWhile isSpace
  let signLength := if startsWith body "-" ∨ startsWith body "+" then 1 else 0
  let lengths := ((List.range (body.length + 1)).reverse).filter (signLength < ·)
  match lengths.findSome? fun n =>
    if (body.take n).contains (byte '_') then none else (Decimal.nearest? (body.take n)).map fun x => (x, n) with
  | some (x, n) => ⟨x, body.drop n, true, !x.isFinite && (body.take n).any isDigit⟩
  | none => ⟨0, t, false, false⟩

/-! ## Directives -/

/-- How an argument is written. -/
structure Directive where
  isLeft : Bool := false
  hasPlus : Bool := false
  hasSpace : Bool := false
  hasMark : Bool := false
  hasZeros : Bool := false
  width : Nat := 0
  precision : Option Nat := none

namespace Directive

/-- The directive with a width or a negative one, which puts what is written to the left. -/
def withWidth (d : Directive) (n : Int) : Directive :=
  if n < 0 then { d with isLeft := true, width := n.natAbs } else { d with width := n.toNat }

/-- A text filled up to the width; zeros go between its sign and its digits. -/
def fill (d : Directive) (zeros : Bool) (sign body : Text) : Text :=
  let missing := d.width - sign.length - body.length
  if d.isLeft then sign ++ body ++ List.replicate missing (byte ' ')
  else if zeros then sign ++ List.replicate missing (byte '0') ++ body
  else List.replicate missing (byte ' ') ++ sign ++ body

/-- A text, of which only the start is written if there is a precision. -/
def text (d : Directive) (t : Text) : Text :=
  d.fill false [] (match d.precision with
    | some n => t.take n
    | none => t)

/-- The sign of a number. -/
def sign (d : Directive) (negative : Bool) : Text :=
  if negative then "-" else if d.hasPlus then "+" else if d.hasSpace then " " else []

/-- The digits of a natural number, at least as many as the precision says. -/
def digits (d : Directive) (base n : Nat) : Text :=
  let ds := if n = 0 ∧ d.precision = some 0 then [] else (Nat.toDigits base n).map byte
  List.replicate (d.precision.getD 1 - ds.length) (byte '0') ++ ds

/-- An integer with its sign. -/
def signed (d : Directive) (n : Int) : Text :=
  d.fill (d.hasZeros && d.precision.isNone) (d.sign (n < 0)) (d.digits 10 n.natAbs)

/-- A natural number in a base, which is marked if the directive says so. -/
def unsigned (d : Directive) (base : Nat) (isUpper : Bool) (n : Nat) : Text :=
  let ds := d.digits base n
  let ds := if base = 8 ∧ d.hasMark ∧ !startsWith ds "0" then byte '0' :: ds else ds
  let mark : Text := if base = 16 ∧ d.hasMark ∧ n ≠ 0 then "0x" else []
  let upper := fun (t : Text) => if isUpper then t.map (fun b => if 97 ≤ b ∧ b ≤ 122 then b - 32 else b) else t
  d.fill (d.hasZeros && d.precision.isNone) (upper mark) (upper ds)

end Directive

/-! ## Floating-point numbers -/

/-- The quotient of two natural numbers, rounded to the nearest one; of two the even one. -/
def rounded (num den : Nat) : Nat :=
  let down := num / den
  let twice := 2 * (num % den)
  if den < twice ∨ (twice = den ∧ down % 2 = 1) then down + 1 else down

/-- The numerator and the denominator of the finite number with the given bits. -/
def ratio (bits : UInt64) : Nat × Nat :=
  let n := bits.toNat
  let biased : Nat := n / Nat.pow 2 52 % 2048
  let mantissa : Nat := if biased = 0 then n % Nat.pow 2 52 else Nat.pow 2 52 + n % Nat.pow 2 52
  let exponent : Int := Int.ofNat (Nat.max biased 1) - 1075
  (mantissa * Nat.pow 2 exponent.toNat, Nat.pow 2 (-exponent).toNat)

/-- A number with digits after the point. -/
def fixed (places : Nat) (r : Nat × Nat) : Text :=
  let digits := ofNat (rounded (r.1 * Nat.pow 10 places) r.2)
  let digits := List.replicate (places + 1 - digits.length) (byte '0') ++ digits
  let whole := digits.take (digits.length - places)
  onlyIf (places = 0) whole ++ onlyIf (places ≠ 0) (whole ++ "." ++ digits.drop (digits.length - places))

/-- The digits of a number with one before the point, and its exponent. -/
def scaled (places : Nat) (r : Nat × Nat) : Text × Int :=
  if r.1 = 0 then (List.replicate (places + 1) (byte '0'), 0)
  else
    let e := Decimal.exponentOf r.1 r.2
    let shift := (places : Int) - e
    let digits := ofNat (rounded (r.1 * Nat.pow 10 shift.toNat) (r.2 * Nat.pow 10 (-shift).toNat))
    if digits.length = places + 1 then (digits, e) else (digits.take (places + 1), e + 1)

/-- The exponent of a number, with at least two digits. -/
def exponentText (e : Int) : Text :=
  let digits := ofNat e.natAbs
  (if e < 0 then ofString "e-" else "e+") ++ onlyIf (digits.length = 1) "0" ++ digits

/-- A number with one digit before the point and an exponent. -/
def scientific (places : Nat) (r : Nat × Nat) : Text :=
  let (digits, e) := scaled places r
  digits.take 1 ++ onlyIf (places ≠ 0) ("." ++ digits.drop 1) ++ exponentText e

/-- The text without the zeros at its end, and without a point there. -/
def withoutZeros (t : Text) : Text :=
  if t.contains (byte '.') then trimEnd (· = byte '.') (trimEnd (· = byte '0') t) else t

/-- A number in the shorter one of the two forms. -/
def general (keepsZeros : Bool) (precision : Nat) (r : Nat × Nat) : Text :=
  let p := Nat.max precision 1
  let (_, e) := scaled (p - 1) r
  if -4 ≤ e ∧ e < p then
    let t := fixed ((p : Int) - 1 - e).toNat r
    if keepsZeros then t else withoutZeros t
  else
    let t := scientific (p - 1) r
    if keepsZeros then t
    else withoutZeros (t.takeWhile (· ≠ byte 'e')) ++ t.dropWhile (· ≠ byte 'e')

/-- A floating-point number as a letter says: `f`, `e` or `g`. -/
def Directive.float (d : Directive) (letter : UInt8) (x : Float) : Text :=
  let lower := letter ||| 32
  let isUpper := letter ≠ lower
  let upper := fun (t : Text) => if isUpper then t.map (fun b => if 97 ≤ b ∧ b ≤ 122 then b - 32 else b) else t
  let sign := d.sign (1 ≤ x.toBits.toNat / Nat.pow 2 63)
  if x.isNaN then d.fill false sign (upper "nan")
  else if x.isInf then d.fill false sign (upper "inf")
  else
    let precision := d.precision.getD 6
    let r := ratio x.toBits
    let body :=
      if lower = byte 'f' then fixed precision r
      else if lower = byte 'e' then scientific precision r
      else general d.hasMark precision r
    d.fill d.hasZeros sign (upper body)

/-! ## Formats -/

/-- What has been written so far. -/
structure State where
  out : Text := []
  complaints : Text := []
  status : Nat := 0
  args : List Text
  /-- Whether nothing more is written. -/
  isOver : Bool := false

namespace State

/-- The next argument; an absent one is empty. -/
def next (s : State) : Text × State := (s.args.headD [], { s with args := s.args.drop 1 })

/-- Complains about an argument. -/
def complain (name : Text → Text) (s : State) (message : Text) : State :=
  { s with complaints := s.complaints ++ name message, status := 1 }

/-- The number that the next argument stands for; a quote stands for the byte that follows it. -/
def number {α : Type} (name : Text → Text) (ofByte : UInt8 → α) (parse : Text → Parsed α) (s : State) : α × State :=
  let (t, s) := s.next
  if startsWith t "'" ∨ startsWith t "\"" then (ofByte ((t.drop 1).headD 0), s)
  else
    let p := parse t
    let s :=
      if p.rest ≠ [] then
        s.complain name (t ++ (if p.found then ofString ": not completely converted" else ": expected numeric value"))
      else if p.isTooLarge then s.complain name (t ++ ": Numerical result out of range")
      else s
    (p.value, s)

/-- Adds to what has been written. -/
def write (s : State) (t : Text) : State := { s with out := s.out ++ t }

/-- Gives up. -/
def fail (name : Text → Text) (s : State) (message : Text) : State :=
  { s with complaints := s.complaints ++ name message, status := 2, isOver := true }

end State

/-- A number of a directive: one that an argument gives, or digits. Gives the number, what follows it, and the arguments
that are left. -/
def measure (name : Text → Text) (s : State) (t : Text) : Option Int × Text × State :=
  if startsWith t "*" then
    let (n, s) := s.number name (fun b => (b.toNat : Int)) signed
    (some n, t.drop 1, s)
  else
    let run := t.takeWhile fun b => isDigit b || b = byte '*'
    ((digits? 10 (run.takeWhile isDigit)).map fun (n : Nat) => (n : Int), t.drop run.length, s)

/-- Writes what a directive stands for: the text is what follows the percent sign. Gives the number of bytes that the
directive takes up. -/
def direct (name : Text → Text) (s : State) (t : Text) : State × Nat :=
  let flags := t.takeWhile fun b => [byte '#', byte '-', byte '+', byte ' ', byte '0'].contains b
  let d : Directive := {
    isLeft := flags.contains (byte '-'), hasPlus := flags.contains (byte '+'), hasSpace := flags.contains (byte ' ')
    hasMark := flags.contains (byte '#'), hasZeros := flags.contains (byte '0') }
  let (width, rest, s) := measure name s (t.drop flags.length)
  let d := d.withWidth (width.getD 0)
  let (d, rest, s) :=
    if startsWith rest "." then
      let (precision, rest, s) := measure name s (rest.drop 1)
      ({ d with precision := if precision.getD 0 < 0 then none else some (precision.getD 0).toNat }, rest, s)
    else (d, rest, s)
  let length := t.length - rest.length + 1
  match rest with
  | [] => (s.fail name "missing format character", t.length)
  | c :: _ =>
    let asByte := fun (b : UInt8) => (b.toNat : Int)
    if c = byte 's' then
      let (a, s) := s.next
      (s.write (d.text a), length)
    else if c = byte 'b' then
      let (a, s) := s.next
      let (a, ended) := Escape.evaluate a
      ({ s.write (d.text a) with isOver := ended }, length)
    else if c = byte 'c' then
      let (a, s) := s.next
      (s.write (d.fill false [] [a.headD 0]), length)
    else if c = byte 'd' ∨ c = byte 'i' then
      let (n, s) := s.number name asByte signed
      (s.write (d.signed n), length)
    else if [byte 'o', byte 'u', byte 'x', byte 'X'].contains c then
      let (n, s) := s.number name asByte unsigned
      let base := if c = byte 'o' then 8 else if c = byte 'u' then 10 else 16
      (s.write (d.unsigned base (c = byte 'X') n.toNat), length)
    else if [byte 'e', byte 'E', byte 'f', byte 'F', byte 'g', byte 'G'].contains c then
      let (x, s) := s.number name (fun b => Float.ofNat b.toNat) float
      (s.write (d.float c x), length)
    else (s.fail name ("%" ++ t.take length ++ ": invalid directive"), length)

/-- Goes through a format once, after its first `skip` bytes. -/
def pass (name : Text → Text) (s : State) : (skip : Nat) → Text → State
  | _, [] => s
  | skip + 1, _ :: rest => pass name s skip rest
  | 0, b :: rest =>
    if s.isOver then s
    else if b = byte '\\' then
      let (e, n) := Escape.single rest
      pass name (s.write [e]) n rest
    else if b ≠ byte '%' then pass name (s.write [b]) 0 rest
    else if startsWith rest "%" then pass name (s.write [b]) 1 rest
    else
      let (s, n) := direct name s rest
      pass name s n rest

/-- Goes through a format until no argument is left, at most `rounds` times. -/
def passes (name : Text → Text) (format : Text) : (rounds : Nat) → State → State
  | 0, s => s
  | rounds + 1, s =>
    let after := pass name s 0 format
    if after.isOver ∨ after.args = [] ∨ after.args.length = s.args.length then after
    else passes name format rounds after

end Printf

/-- Writes arguments as the first one says. Complaints are made with the name of the shell. -/
def printf (name : Text → Text) (args : List Text) : Report :=
  let first := args.headD []
  let args := if first = ("--" : Text) then args.drop 1 else args
  match if startsWith first "-" ∧ 1 < first.length ∧ first ≠ "--" then none else some args with
  | none => { writes := [(2, name ("Illegal option " ++ first.take 2))], status := 2 }
  | some [] => { writes := [(2, name "usage: printf format [arg ...]")], status := 2 }
  | some (format :: args) =>
    let s := Printf.passes name format (args.length + 1) { args }
    { writes := [(2, s.complaints), (1, s.out)], status := s.status }

end Literate.Shell
