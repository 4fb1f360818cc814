import Literate.Disk
import Literate.Shell.Field

/-!
# Patterns

A pattern is made from a field: the bytes `*`, `?` and `[` mean something where they are not quoted. Patterns are matched
with whole texts (`Pattern.admits`) and with the names of files (`Pattern.paths`).
-/

namespace Literate.Shell

open Text

/-- What a pattern asks for at one place. -/
inductive Atom where
  | byte (b : UInt8)
  | any
  /-- Any number of bytes. -/
  | run
  /-- A byte of one of the ranges, or of none of them. -/
  | set (isNegated : Bool) (ranges : List (UInt8 × UInt8))
deriving DecidableEq

/-- A pattern for texts. -/
abbrev Pattern := List Atom

namespace Atom

/-- Whether an atom stands for a byte. -/
def accepts (a : Atom) (b : UInt8) : Bool :=
  match a with
  | byte c => b = c
  | any => true
  | run => true
  | set isNegated ranges => isNegated != ranges.any fun (lo, hi) => lo ≤ b && b ≤ hi

/-- Whether an atom stands for a single byte that it names. -/
def isByte : Atom → Bool
  | byte _ => true
  | _ => false

end Atom

namespace Pattern

/-- The ranges of the classes that have names. -/
def classes : List (Text × List (UInt8 × UInt8)) := [
  ("alpha", [(65, 90), (97, 122)]), ("digit", [(48, 57)]), ("alnum", [(48, 57), (65, 90), (97, 122)]),
  ("upper", [(65, 90)]), ("lower", [(97, 122)]), ("space", [(9, 13), (32, 32)]), ("blank", [(9, 9), (32, 32)]),
  ("punct", [(33, 47), (58, 64), (91, 96), (123, 126)]), ("print", [(32, 126)]), ("graph", [(33, 126)]),
  ("cntrl", [(0, 31), (127, 127)]), ("xdigit", [(48, 57), (65, 70), (97, 102)])]

/-- The ranges of the class that the start of a field names, and the length of the name with the signs around it. -/
def class? (f : Field) : Option (List (UInt8 × UInt8) × Nat) :=
  classes.findSome? fun (name, ranges) =>
    if startsWith f.text ("[:" ++ name ++ ":]") then some (ranges, name.length + 4) else none

/-- The ranges of a set up to its bracket, and how many bytes they and the bracket take up; `first` is a byte that has been
passed already and `skip` the number of bytes to pass over. -/
def ranges? (isFirst : Bool) : (skip : Nat) → Field → Option (List (UInt8 × UInt8) × Nat)
  | _, [] => none
  | skip + 1, _ :: rest => (ranges? isFirst skip rest).map fun (rs, n) => (rs, n + 1)
  | 0, g :: rest =>
    if g.means (byte ']') ∧ !isFirst then some ([], 1)
    else
      match class? (g :: rest) with
      | some (named, n) => (ranges? false (n - 1) rest).map fun (rs, m) => (named ++ rs, m + 1)
      | none =>
        match rest with
        | h :: hi :: _ =>
          if h.means (byte '-') ∧ !hi.means (byte ']') then
            (ranges? false 2 rest).map fun (rs, n) => ((g.byte, hi.byte) :: rs, n + 1)
          else (ranges? false 0 rest).map fun (rs, n) => ((g.byte, g.byte) :: rs, n + 1)
        | _ => (ranges? false 0 rest).map fun (rs, n) => ((g.byte, g.byte) :: rs, n + 1)

/-- The pattern of a field, after its first `skip` bytes. -/
def ofFieldFrom : (skip : Nat) → Field → Pattern
  | _, [] => []
  | skip + 1, _ :: rest => ofFieldFrom skip rest
  | 0, g :: rest =>
    if g.means (byte '*') then .run :: ofFieldFrom 0 rest
    else if g.means (byte '?') then .any :: ofFieldFrom 0 rest
    else if g.means (byte '[') then
      let isNegated := rest.head?.any (·.means (byte '!'))
      match ranges? true 0 (if isNegated then rest.tail else rest) with
      | some (rs, n) => .set isNegated rs :: ofFieldFrom (if isNegated then n + 1 else n) rest
      | none => .byte g.byte :: ofFieldFrom 0 rest
    else if g.means (byte '\\') then
      match rest with
      | h :: _ => .byte h.byte :: ofFieldFrom 1 rest
      | [] => [.byte g.byte]
    else .byte g.byte :: ofFieldFrom 0 rest

/-- The pattern of a field. -/
def ofField (f : Field) : Pattern := ofFieldFrom 0 f

/-- Whether a pattern asks for more than the bytes that it names. -/
def isOpen (p : Pattern) : Bool := !p.all Atom.isByte

/-- Whether a pattern stands for a text. -/
def admits : Pattern → Text → Bool
  | [], t => t.isEmpty
  | .run :: p, t => (List.range (t.length + 1)).any fun k => admits p (t.drop k)
  | _ :: _, [] => false
  | a :: p, b :: t => a.accepts b && admits p t

/-- The lengths of the starts of a text that a pattern stands for, shortest first. -/
def starts (p : Pattern) (t : Text) : List Nat := (List.range (t.length + 1)).filter fun n => p.admits (t.take n)

/-- The numbers of bytes before the ends of a text that a pattern stands for, longest end first. -/
def ends (p : Pattern) (t : Text) : List Nat := (List.range (t.length + 1)).filter fun n => p.admits (t.drop n)

/-- The text without the start or the end that a pattern stands for. -/
def trim (p : Pattern) (atEnd longest : Bool) (t : Text) : Text :=
  if atEnd then
    match if longest then (p.ends t).head? else (p.ends t).getLast? with
    | some n => t.take n
    | none => t
  else
    match if longest then (p.starts t).getLast? else (p.starts t).head? with
    | some n => t.drop n
    | none => t

/-! ## Names of files -/

/-- Whether a pattern stands for the name of a file; a hidden one has to be asked for by its first byte. -/
def matchesName (p : Pattern) (name : Text) : Bool :=
  (!startsWith name "." || p.head? = some (.byte (byte '.'))) && p.admits name

/-- The paths that the components of a pattern stand for, after a path that ends with a slash or is empty. -/
def pathsFrom (d : Disk) (stem : Text) : List Field → List Text
  | [] => []
  | f :: rest =>
    let p := ofField f
    let names :=
      if !p.isOpen then [f.text]
      else
        match d.locate (if stem = [] then "." else stem) with
        | .ok l => (ofString "." :: ofString ".." :: d.entries l).filter p.matchesName
        | .error _ => []
    if rest.isEmpty then (names.map (stem ++ ·)).filter d.has
    else names.flatMap fun name => pathsFrom d (stem ++ name ++ "/") rest

/-- The paths of the files that a field stands for, in order, or the field itself if there are none. -/
def paths (d : Disk) (f : Field) : List Text :=
  if !(ofField f).isOpen then [f.text]
  else
    let found := pathsFrom d [] f.components
    if found.isEmpty then [f.text] else found.mergeSort fun a b => decide (a ≤ b)

end Pattern

end Literate.Shell
