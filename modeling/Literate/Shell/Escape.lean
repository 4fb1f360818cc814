import Literate.Text.Digits

/-!
# Escapes

What stands for a byte after a backslash: a letter, or up to three octal digits. In the arguments of `echo` octal digits
can begin with a zero that does not count, and `\c` ends the text.
-/

namespace Literate.Shell.Escape

open Text

/-- The byte of a letter after a backslash. -/
def letter? (b : UInt8) : Option UInt8 :=
  if b = byte 'a' then some 7
  else if b = byte 'b' then some 8
  else if b = byte 'f' then some 12
  else if b = byte 'n' then some 10
  else if b = byte 'r' then some 13
  else if b = byte 't' then some 9
  else if b = byte 'v' then some 11
  else if b = byte '\\' then some 92
  else none

/-- The octal digits at the start of a text, at most three of them. -/
def octals (t : Text) : Text := (t.take 3).takeWhile fun b => byte '0' ≤ b && b ≤ byte '7'

/-- The byte of octal digits. -/
def octalByte (digits : Text) : UInt8 := (digits.foldl (fun n b => n * 8 + (b - byte '0').toNat) 0).toUInt8

/-- The byte that the text after a backslash stands for, and how much of the text that takes up; a backslash that begins
no escape stands for itself. -/
def single (t : Text) : UInt8 × Nat :=
  match t with
  | [] => (byte '\\', 0)
  | b :: _ =>
    match letter? b with
    | some e => (e, 1)
    | none => if (octals t).isEmpty then (byte '\\', 0) else (octalByte (octals t), (octals t).length)

/-- The text with its escapes evaluated, after its first `skip` bytes, and whether it was ended early. -/
def evaluateFrom : (skip : Nat) → Text → Text × Bool
  | _, [] => ([], false)
  | skip + 1, _ :: rest => evaluateFrom skip rest
  | 0, b :: rest =>
    let step := fun (c : UInt8) (n : Nat) =>
      let (t, ended) := evaluateFrom n rest
      (c :: t, ended)
    if b ≠ byte '\\' then step b 0
    else
      match rest with
      | c :: after =>
        if c = byte 'c' then ([], true)
        else if c = byte '0' then step (octalByte (octals after)) ((octals after).length + 1)
        else
          let (e, n) := Escape.single rest
          step e n
      | [] => step b 0

/-- The text with its escapes evaluated, and whether it was ended early. -/
def evaluate (t : Text) : Text × Bool := evaluateFrom 0 t

end Literate.Shell.Escape
