import Literate.Bisect

/-!
# Ranges of code points

Properties and mappings of characters are given as lists of ranges of code points; a range takes every code point or
every second one between its ends.
-/

namespace Literate.Unicode

/-- The code points `first`, `first + step`, … up to `last`. -/
structure Span where
  first : Nat
  last : Nat
  step : Nat := 1

/-- Whether a code point is one of a span. -/
def Span.contains (s : Span) (n : Nat) : Bool :=
  s.first ≤ n && n ≤ s.last && (n - s.first) % s.step == 0

/-- Spans in ascending order that do not overlap. -/
abbrev Table := Array Span

namespace Table

/-- The table of a list of spans without gaps in them, given by their ends. -/
def ofRanges (ranges : List (Nat × Nat)) : Table := (ranges.map fun r => { first := r.1, last := r.2 }).toArray

/-- Whether a code point is in a table: only the last span that does not begin after it can have it. -/
def contains (t : Table) (n : Nat) : Bool :=
  match t[bisect (fun i => t[i]?.all (n < ·.first)) 0 t.size - 1]? with
  | some s => s.contains n
  | none => false

end Table

/-- A range of code points together with the distance by which a mapping moves them. -/
structure Shift where
  first : Nat
  last : Nat
  step : Nat
  delta : Int

/-- The code points that a shift moves. -/
def Shift.span (s : Shift) : Span := ⟨s.first, s.last, s.step⟩

/-- The character that a list of shifts maps `c` to, which is `c` itself outside of them. -/
def applyShifts (shifts : List Shift) (c : Char) : Char :=
  match shifts.find? (·.span.contains c.toNat) with
  | some s => Char.ofNat (c.toNat + s.delta).toNat
  | none => c

end Literate.Unicode
