import Literate.Text.Symbol
import Literate.Unicode.Folding

/-!
# Regular expressions

A regular expression takes positions of a text to positions further on: `Regex.advance` maps a set of positions at which
the expression may begin to the set of those at which it may end. It occurs in a text if it leads from some position to
some position.
-/

namespace Literate

/-- A set of characters. -/
abbrev CharSet := Char → Bool

namespace CharSet

/-- The characters between two code points, both included. -/
def range (lo hi : Nat) : CharSet := fun c => lo ≤ c.toNat && c.toNat ≤ hi

/-- The characters of at least one of several sets. -/
def union (sets : List CharSet) : CharSet := fun c => sets.any (· c)

/-- The characters outside of a set. -/
def compl (s : CharSet) : CharSet := fun c => !s c

/-- The characters that are equal to one of a set up to case. -/
def folded (s : CharSet) : CharSet := fun c => (Unicode.foldOrbit c).any s

/-- The digits of ASCII. -/
def digit : CharSet := range 48 57

/-- The letters of ASCII, its digits and the underscore. -/
def word : CharSet := fun c => c.isAlphanum || c == '_'

/-- Tab, line feed, form feed, carriage return and space. -/
def blank : CharSet := fun c => c == ' ' || c == '\t' || c == '\n' || c == '\r' || c.toNat == 12

end CharSet

/-- A condition on a position. -/
inductive Assertion where
  | textStart
  | textEnd
  | lineStart
  | lineEnd
  | wordEdge
  | noWordEdge
deriving DecidableEq, Repr

/-- A regular expression. -/
inductive Regex where
  | empty
  | set (s : CharSet)
  | check (a : Assertion)
  | seq (a b : Regex)
  | alt (a b : Regex)
  /-- At least `min` times one after another, and at most `max` times if that is given. -/
  | rep (r : Regex) (min : Nat) (max : Option Nat)

namespace Regex

/-- Whether a word character stands at a position. -/
def wordAt (t : Array Char) (i : Nat) : Bool := (t[i]?.map CharSet.word).getD false

/-- Whether a word character stands before a position. -/
def wordBefore (t : Array Char) (i : Nat) : Bool := i != 0 && wordAt t (i - 1)

/-- Whether an assertion holds at a position of a text. -/
def holds (t : Array Char) (i : Nat) : Assertion → Bool
  | .textStart => i == 0
  | .textEnd => i == t.size
  | .lineStart => i == 0 || t[i - 1]? == some '\n'
  | .lineEnd => i == t.size || t[i]? == some '\n'
  | .wordEdge => wordBefore t i != wordAt t i
  | .noWordEdge => wordBefore t i == wordAt t i

/-- The positions of two sets. -/
def join (a b : List Nat) : List Nat := a ++ b.filter (· ∉ a)

/-- A step taken a number of times. -/
def times (f : List Nat → List Nat) : Nat → List Nat → List Nat
  | 0, ps => ps
  | n + 1, ps => times f n (f ps)

/-- A step taken at most a number of times. -/
def upTo (f : List Nat → List Nat) : Nat → List Nat → List Nat
  | 0, ps => ps
  | n + 1, ps =>
    let next := join ps (f ps)
    if next.length = ps.length then ps else upTo f n next

/-- The positions at which an expression that begins at one of the given positions may end. -/
def advance (t : Array Char) : Regex → List Nat → List Nat
  | empty => fun ps => ps
  | set s => fun ps => ps.filterMap fun i => if (t[i]?.map s).getD false then some (i + 1) else none
  | check a => fun ps => ps.filter (holds t · a)
  | seq a b => fun ps => advance t b (advance t a ps)
  | alt a b => fun ps => join (advance t a ps) (advance t b ps)
  | rep r min max => fun ps =>
    upTo (advance t r) (match max with
      | some m => m - min
      | none => t.size + 1) (times (advance t r) min ps)

/-- Whether an expression occurs in a text. -/
def occursIn (r : Regex) (text : Text) : Bool :=
  let t := (Text.chars text).toArray
  !(advance t r (List.range (t.size + 1))).isEmpty

/-- Whether expressions that are repeated a number of times within each other are repeated at most `n` times in all. -/
def repeatsAtMost : Regex → Nat → Bool
  | empty, _ => true
  | set _, _ => true
  | check _, _ => true
  | seq a b, n => repeatsAtMost a n && repeatsAtMost b n
  | alt a b, n => repeatsAtMost a n && repeatsAtMost b n
  | rep r min max, n =>
    let m := match max with
      | some m => m
      | none => min
    if m = 0 then true else if n < m then false else repeatsAtMost r (n / m)

end Regex

end Literate
