import Literate.Bisect

/-!
# Sorting by comparisons that are no order

If a comparison is an order, all stable sorts of a list agree. If it is not, the result depends on which elements are
compared. `Sort.stable` compares as follows: runs of twenty elements are sorted by insertion, and then runs are merged in
pairs by symmetric comparisons around their middles.
-/

namespace Literate.Sort

section
variable {α : Type} (less : α → α → Bool)

/-- Puts an element after a sorted run, whose last element stands first, and moves it down past those above it. -/
def insertLast (x : α) : List α → List α
  | [] => [x]
  | y :: rest => if less x y then y :: insertLast x rest else x :: y :: rest

/-- A run sorted by insertion. -/
def insertion (run : List α) : List α := (run.foldl (fun sorted x => insertLast less x sorted) []).reverse

/-- Whether the element at one place is less than that at another. -/
def lessAt (run : Array α) (i j : Nat) : Bool :=
  match run[i]?, run[j]? with
  | some x, some y => less x y
  | _, _ => false

/-- The first `count` elements of a run moved behind the others up to `stop`. -/
def rotate (run : List α) (start middle stop : Nat) : List α :=
  run.take start ++ (run.drop middle).take (stop - middle) ++ (run.drop start).take (middle - start) ++ run.drop stop

/-- Two sorted runs, of which the first has `m` elements, merged. -/
def merge : (fuel : Nat) → (m : Nat) → List α → List α
  | 0, _, run => run
  | fuel + 1, m, run =>
    let data := run.toArray
    let size := data.size
    if m = 1 then
      let i := bisect (fun h => !lessAt less data h 0) 1 size
      rotate run 0 1 i
    else if size = m + 1 then
      let i := bisect (fun h => lessAt less data m h) 0 m
      rotate run i m (m + 1)
    else
      let middle := size / 2
      let n := middle + m
      let (low, high) := if m > middle then (n - size, middle) else (0, m)
      let start := bisect (fun c => lessAt less data (n - 1 - c) c) low high
      let stop := n - start
      let run := if start < m ∧ m < stop then rotate run start m stop else run
      let left := run.take middle
      let right := run.drop middle
      (if 0 < start ∧ start < middle then merge fuel start left else left) ++
        (if middle < stop ∧ stop < size then merge fuel (stop - middle) right else right)

/-- A list cut into runs of a size. -/
def runs (size : Nat) : (fuel : Nat) → List α → List (List α)
  | 0, _ => []
  | fuel + 1, xs => if xs.isEmpty then [] else xs.take size :: runs size fuel (xs.drop size)

/-- Runs merged in pairs. -/
def mergePairs : List (List α) → List (List α)
  | a :: b :: rest => merge less (a.length + b.length) a.length (a ++ b) :: mergePairs rest
  | rest => rest

/-- Runs merged in pairs until one is left; each round leaves half of them. -/
def mergeAll : (fuel : Nat) → List (List α) → List α
  | 0, rs => rs.flatten
  | fuel + 1, rs =>
    match rs with
    | [] => []
    | [run] => run
    | rs => mergeAll fuel (mergePairs less rs)

/-- The list sorted by a comparison. -/
def stable (xs : List α) : List α :=
  let rs := (runs 20 xs.length xs).map (insertion less)
  mergeAll less rs.length rs

end

end Literate.Sort
