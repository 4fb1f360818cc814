import Literate.Ref

/-!
# Suggestions

A name that is not defined may be a misspelling of one that is. A candidate matches a pattern if the characters of the
pattern occur in it in order, up to case; it scores by how well they sit there: at the start, after a separator, at a
hump, or next to each other. The best candidates are suggested.

The reading of a candidate can run past the end of the pattern, which happens at a NUL character after the last match;
`score?` then has no answer at all, which is not the same as no match.

The search is the work of the package `fuzzy`, and is written here after that package. It is assumed that the answer
depends on the name and on the candidates in their order only, and, where an input is given on which a call crashes, that
a NUL character after the last match makes the package fail. What is proved of all inputs holds for any other search of
this kind: no such statement looks at the scores.
-/

namespace Literate.Suggest

open Text

/-- Whether a character separates the parts of a name. -/
def isSeparator (c : Char) : Bool := c ∈ ['/', '-', '_', ' ', '.', '\\']

/-- The state of matching a candidate: how many characters of the pattern are matched, the best score and place of the
character being matched, the bonus for neighbours so far, the score of the matched characters, their places with the
last first, and the character before and its place. -/
structure Progress where
  index : Nat := 0
  best : Int := -1
  place : Option Nat := none
  bonus : Int := 0
  total : Int := 0
  matched : List Nat := []
  last : Char := '\x00'
  lastPlace : Nat := 0

namespace Progress

/-- The score of a match at `place` and the bonus for standing next to the match before it. -/
def matchScore (p : Progress) (place : Nat) (c : Char) : Int × Int :=
  let bonus : Int :=
    match p.matched with
    | [] => 0
    | m :: _ => if p.lastPlace = m then p.bonus * 2 + 5 else 0
  ((if place = 0 then 10 else 0) + (if Unicode.isLower p.last && Unicode.isUpper c then 20 else 0) +
    (if place ≠ 0 ∧ isSeparator p.last then 20 else 0) + bonus, bonus)

/-- Weighs a character that may match the current one of the pattern. -/
def weigh (p : Progress) (place : Nat) (c : Char) : Progress :=
  let (score, bonus) := p.matchScore place c
  let p := { p with bonus := p.bonus + bonus }
  if score > p.best then { p with best := score, place := some place } else p

/-- Takes the best place for the current character of the pattern, and goes on to the next one. -/
def settle (p : Progress) : Progress :=
  match p.place with
  | none => p
  | some place =>
    let best := if p.matched.isEmpty then p.best + max (-5 * (place : Int)) (-15) else p.best
    { p with total := p.total + best, matched := place :: p.matched, best := -1, index := p.index + 1 }

/-- One character `c` of the candidate, followed by `next`. -/
def step (pattern : Array Char) (p : Progress) (place : Nat) (c next : Char) : Option Progress :=
  match pattern[p.index]? with
  | none => none
  | some wanted =>
    let p := if Unicode.foldEq c wanted then p.weigh place c else p
    let upcoming := (pattern[p.index + 1]?).getD '\x00'
    let p := if Unicode.foldEq upcoming next || next == '\x00' then p.settle else p
    some { p with last := c, lastPlace := place }

/-- The characters of a candidate from a place on. -/
def run (pattern : Array Char) : (place : Nat) → List Symbol → Progress → Option Progress
  | _, [], p => some p
  | place, r :: rest, p =>
    match p.step pattern place r.char ((rest.head?.map (·.char)).getD '\x00') with
    | none => none
    | some p => run pattern (place + r.bytes.length) rest p

end Progress

/-- The score of a candidate: `none` if matching it runs past the pattern, `some none` if it does not match. -/
def score? (pattern : Array Char) (candidate : Text) : Option (Option Int) :=
  (Progress.run pattern 0 (symbols candidate) {}).map fun p =>
    if p.matched.length = pattern.size then
      some (p.total + ((p.matched.length : Int) - (candidate.length : Int)))
    else none

/-- The candidates with their scores, where they match. -/
def scores? (pattern : Array Char) : List Text → Option (List (Int × Text))
  | [] => some []
  | c :: rest =>
    match score? pattern c, scores? pattern rest with
    | some (some n), some ms => some ((n, c) :: ms)
    | some none, some ms => some ms
    | _, _ => none

/-- How many names are suggested at most. -/
def limit : Nat := 3

/-- The names that match best, the best first; of equal ones the last first. -/
def names? (name : Text) (candidates : List Text) : Option (List Text) :=
  match chars name with
  | [] => some []
  | pattern => (scores? pattern.toArray candidates).map fun ms =>
    ((ms.reverse.mergeSort fun a b => a.1 ≥ b.1).take limit).map (·.2)

end Literate.Suggest
