/-!
# Sorting in place

`Quicksort.sort?` sorts an array by a comparison that can fail, and fails as soon as it does. Equal elements need not
stay in order. Where they end up is decided by the steps taken: runs of at most twelve elements are sorted by insertion,
longer ones are parted around the median of a few elements, and runs that seem to be in order already, or in reverse, are
treated as such.
-/

namespace Literate.Quicksort

section
variable {α : Type} (less? : α → α → Option Bool)

/-- Whether the element at one place is less than that at another. -/
def lessAt? (a : Array α) (i j : Nat) : Option Bool := do less? (← a[i]?) (← a[j]?)

/-! ## Insertion -/

/-- Moves an element down past greater ones, at most to the place `low`. -/
def sink? (low : Nat) (a : Array α) : (place : Nat) → Option (Array α)
  | 0 => some a
  | i + 1 => do
    if low < i + 1 then
      if ← lessAt? less? a (i + 1) i then sink? low (a.swapIfInBounds (i + 1) i) i else return a
    else return a

/-- Sorts a run by insertion. -/
def insertion? (a : Array α) (low high : Nat) : Option (Array α) :=
  (List.range' (low + 1) (high - low - 1)).foldlM (fun a i => sink? less? low a i) a

/-! ## Heaps -/

/-- Moves the root of a heap of `size` elements, which begins at `first`, down to its place. -/
def siftDown? (first size : Nat) : (fuel : Nat) → Array α → (root : Nat) → Option (Array α)
  | 0, a, _ => some a
  | fuel + 1, a, root => do
    let child := 2 * root + 1
    if size ≤ child then return a
    else
      let child ← if child + 1 < size then
          (lessAt? less? a (first + child) (first + child + 1)).map fun yes => if yes then child + 1 else child
        else some child
      if ← lessAt? less? a (first + root) (first + child) then
        siftDown? first size fuel (a.swapIfInBounds (first + root) (first + child)) child
      else return a

/-- Sorts a run by making it a heap and taking its roots. -/
def heap? (a : Array α) (low high : Nat) : Option (Array α) := do
  let size := high - low
  let a ← (List.range ((size - 1) / 2 + 1)).reverse.foldlM (fun a i => siftDown? less? low size size a i) a
  (List.range size).reverse.foldlM (fun a i => siftDown? less? low i size (a.swapIfInBounds low (low + i)) 0) a

/-! ## Pivots -/

/-- Two places in the order of their elements, after a number of exchanges. -/
def order? (a : Array α) (i j exchanges : Nat) : Option (Nat × Nat × Nat) := do
  if ← lessAt? less? a j i then return (j, i, exchanges + 1) else return (i, j, exchanges)

/-- The place of the median of three elements, after a number of exchanges. -/
def median? (a : Array α) (i j k exchanges : Nat) : Option (Nat × Nat) := do
  let (i, j, exchanges) ← order? less? a i j exchanges
  let (j, _, exchanges) ← order? less? a j k exchanges
  let (_, j, exchanges) ← order? less? a i j exchanges
  return (j, exchanges)

/-- How a run looks like from the elements among which its pivot is chosen. -/
inductive Trend where
  | rising
  | falling
  | unknown
deriving DecidableEq

/-- The place of a pivot: a median of three elements, or of three medians in long runs. -/
def pivot? (a : Array α) (low high : Nat) : Option (Nat × Trend) := do
  let n := high - low
  let i := low + n / 4
  let j := low + n / 4 * 2
  let k := low + n / 4 * 3
  let trend := fun (exchanges : Nat) =>
    if exchanges = 0 then Trend.rising else if exchanges = 12 then .falling else .unknown
  if n < 8 then return (j, .rising)
  else if n < 50 then
    let (j, exchanges) ← median? less? a i j k 0
    return (j, trend exchanges)
  else
    let (i, exchanges) ← median? less? a (i - 1) i (i + 1) 0
    let (j, exchanges) ← median? less? a (j - 1) j (j + 1) exchanges
    let (k, exchanges) ← median? less? a (k - 1) k (k + 1) exchanges
    let (j, exchanges) ← median? less? a i j k exchanges
    return (j, trend exchanges)

/-- A run in reverse. -/
def reversed (a : Array α) (low high : Nat) : Array α :=
  (List.range ((high - low) / 2)).foldl (fun a i => a.swapIfInBounds (low + i) (high - 1 - i)) a

/-- The next of a sequence of numbers that look random. -/
def scramble (n : UInt64) : UInt64 :=
  let n := n ^^^ (n <<< 13)
  let n := n ^^^ (n >>> 7)
  n ^^^ (n <<< 17)

/-- A run of at least eight elements in which the three around its middle are exchanged with others. -/
def scattered (a : Array α) (low high : Nat) : Array α :=
  let n := high - low
  let count := Nat.pow 2 (Nat.log2 n + 1)
  let middle := low + n / 4 * 2 - 1
  let other := fun (random : UInt64) =>
    let i := random.toNat % count
    low + (if n ≤ i then i - n else i)
  let first := scramble (UInt64.ofNat n)
  let second := scramble first
  let third := scramble second
  ((a.swapIfInBounds (middle - 1) (other first)).swapIfInBounds middle (other second)).swapIfInBounds (middle + 1)
    (other third)

/-! ## Parting -/

/-- The first place from `i` to `j` of which something is not true. -/
def ascend? (p : Nat → Option Bool) (j : Nat) : (fuel : Nat) → (i : Nat) → Option Nat
  | 0, i => some i
  | fuel + 1, i => do
    if i ≤ j then
      if ← p i then ascend? p j fuel (i + 1) else return i
    else return i

/-- The last place from `i` to `j` of which something is not true. -/
def descend? (p : Nat → Option Bool) (i : Nat) : (fuel : Nat) → (j : Nat) → Option Nat
  | 0, j => some j
  | fuel + 1, j => do
    if i ≤ j then
      if ← p j then descend? p i fuel (j - 1) else return j
    else return j

/-- Exchanges elements between the places `i` and `j` until those that belong to the left stand before those that belong
to the right; `rounds` says how often that has been done, and what is given back is how often it was, the place of the
first element of the right, and that of the last of the left. -/
def part? (left : Array α → Nat → Option Bool) :
    (fuel : Nat) → Array α → (i j rounds : Nat) → Option (Array α × Nat × Nat × Nat)
  | 0, a, i, j, rounds => some (a, i, j, rounds)
  | fuel + 1, a, i, j, rounds => do
    let i ← ascend? (left a) j (j + 1 - i) i
    let j ← descend? (fun k => (left a k).map (!·)) i (j + 1 - i) j
    if j < i then return (a, i, j, rounds)
    else part? left fuel (a.swapIfInBounds i j) (i + 1) (j - 1) (rounds + 1)

/-- Parts a run around an element: less ones stand before it. Gives its place, and whether the run was parted so
before. -/
def partition? (a : Array α) (low high pivot : Nat) : Option (Array α × Nat × Bool) := do
  let a := a.swapIfInBounds low pivot
  let (a, _, j, rounds) ← part? (fun a k => lessAt? less? a k low) (high - low) a (low + 1) (high - 1) 0
  return (a.swapIfInBounds j low, j, rounds = 0)

/-- Parts a run of elements that are not less than a pivot: those that are equal to it stand before those that are
greater. Gives the place of the first that is greater. -/
def partitionEqual? (a : Array α) (low high pivot : Nat) : Option (Array α × Nat) := do
  let a := a.swapIfInBounds low pivot
  let (a, i, _, _) ← part? (fun a k => (lessAt? less? a low k).map (!·)) (high - low) a (low + 1) (high - 1) 0
  return (a, i)

/-! ## Nearly sorted runs -/

/-- Moves an element up past less ones, before the place `high`; the next of them stands at `i`. -/
def rise? (high : Nat) : (fuel : Nat) → Array α → (i : Nat) → Option (Array α)
  | 0, a, _ => some a
  | fuel + 1, a, i => do
    if i < high then
      if ← lessAt? less? a i (i - 1) then rise? high fuel (a.swapIfInBounds i (i - 1)) (i + 1) else return a
    else return a

/-- Puts at most `steps` elements that are out of order in their places, and says whether the run is sorted then. Short
runs are left alone. -/
def mend? (low high : Nat) : (steps : Nat) → Array α → (i : Nat) → Option (Array α × Bool)
  | 0, a, _ => some (a, false)
  | steps + 1, a, i => do
    let i ← ascend? (fun k => (lessAt? less? a k (k - 1)).map (!·)) (high - 1) (high - i) i
    if i = high then return (a, true)
    else if high - low < 50 then return (a, false)
    else
      let a := a.swapIfInBounds i (i - 1)
      let a ← if 2 ≤ i - low then sink? less? 0 a (i - 1) else some a
      let a ← if 2 ≤ high - i then rise? less? high (high - i) a (i + 1) else some a
      mend? low high steps a i

/-! ## Sorting -/

/-- Sorts a run. `limit` is how many bad partings are allowed before a heap is used; `balanced` and `parted` say how the
last parting went. -/
def sortRun? : (fuel : Nat) → Array α → (low high limit : Nat) → (balanced parted : Bool) → Option (Array α)
  | 0, a, _, _, _, _, _ => some a
  | fuel + 1, a, low, high, limit, balanced, parted => do
    let n := high - low
    if n ≤ 12 then insertion? less? a low high
    else if limit = 0 then heap? less? a low high
    else
      let (a, limit) := if balanced then (a, limit) else (scattered a low high, limit - 1)
      let (pivot, trend) ← pivot? less? a low high
      let (a, pivot, trend) := if trend = .falling then (reversed a low high, high - 1 - (pivot - low), Trend.rising)
        else (a, pivot, trend)
      let (a, sorted) ← if balanced ∧ parted ∧ trend = .rising then mend? less? low high 5 a (low + 1)
        else some (a, false)
      if sorted then return a
      else if ← (if 0 < low then (lessAt? less? a (low - 1) pivot).map (!·) else some false) then
        let (a, middle) ← partitionEqual? less? a low high pivot
        sortRun? fuel a middle high limit balanced parted
      else
        let (a, middle, parted) ← partition? less? a low high pivot
        let left := middle - low
        let right := high - middle
        if left < right then
          let a ← sortRun? fuel a low middle limit true true
          sortRun? fuel a (middle + 1) high limit (n / 8 ≤ left) parted
        else
          let a ← sortRun? fuel a (middle + 1) high limit true true
          sortRun? fuel a low middle limit (n / 8 ≤ right) parted

/-- Sorts a list. -/
def sort? (xs : List α) : Option (List α) :=
  let a := xs.toArray
  if a.size ≤ 1 then some xs
  else (sortRun? less? (a.size + 1) a 0 a.size (Nat.log2 a.size + 1) true true).map (·.toList)

end

end Literate.Quicksort
