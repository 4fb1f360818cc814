import Literate.Filter.Code
import Literate.Filter.Function

/-!
# Running filters

A machine runs the instructions of a filter on an entry. It has a stack of values, the loops it is in, and the values that
have names. A step that cannot be taken stops it, and so does making more than a budget allows: lists, maps and some texts
count by their sizes.
-/

namespace Literate.Filter

open Text

/-- What a filter is asked about: an entry, at a moment. -/
structure Context where
  entry : Entry
  now : Log.Instant

/-- What the elements of a loop came to so far. -/
inductive Tally where
  | value (v : Value)
  /-- Elements in groups by their keys, the last element first. -/
  | groups (groups : List (Value × List Value))
  /-- Elements with their keys, the last element first. -/
  | keyed (descending : Bool) (items : List (Value × Value))

namespace Tally

/-- The value that elements came to. -/
def result : Tally → Value
  | value v => v
  | groups gs => .map .grouped (gs.map fun g => (g.1, .ofList g.2.reverse))
  | keyed .. => .nil

/-- One more element in a group. -/
def group (groups : List (Value × List Value)) (key v : Value) : List (Value × List Value) :=
  if groups.any fun g => key.identical g.1 then groups.map fun g => if key.identical g.1 then (g.1, v :: g.2) else g
  else groups ++ [(key, [v])]

end Tally

/-- A loop that a machine is in. The elements of a map cannot be looked at. -/
structure Frame where
  items : Array (Option Value)
  index : Int := 0
  hits : Nat := 0
  tally : Tally := .value .nil

/-- A machine while it runs. -/
structure Machine where
  /-- The place of the next instruction. -/
  place : Nat := 0
  stack : List Value := []
  /-- The innermost loop stands first. -/
  frames : List Frame := []
  names : Array Value
  /-- The number of things that were made. -/
  made : Nat := 0

namespace Machine

/-! ## Parts of a machine -/

/-- The number of things that a filter may not make. -/
def budget : Nat := 1000000

/-- Counts things that were made, unless they are too many. -/
def grow? (m : Machine) (n : Nat) : Option Machine :=
  if budget ≤ m.made + n then none else some { m with made := m.made + n }

/-- Leaves a value on the stack. -/
def push (m : Machine) (v : Value) : Machine := { m with stack := v :: m.stack }

/-- Takes a value from the stack and leaves what becomes of it. -/
def map? (m : Machine) (f : Value → Option Value) : Option Machine :=
  match m.stack with
  | [] => none
  | v :: stack => (f v).map fun w => { m with stack := w :: stack }

/-- Takes two values from the stack and leaves what they come to; the second operand lies on top. -/
def combine? (m : Machine) (f : Value → Value → Option Value) : Option Machine :=
  match m.stack with
  | b :: a :: stack => (f a b).map fun w => { m with stack := w :: stack }
  | _ => none

/-- Takes some values from the stack, of which the last lies on top. -/
def take? (m : Machine) (n : Nat) : Option (List Value × Machine) :=
  let taken := m.stack.take n
  if taken.length < n then none else some (taken.reverse, { m with stack := m.stack.drop n })

/-- Takes a value from the stack. -/
def pop? (m : Machine) : Option (Value × Machine) :=
  match m.stack with
  | [] => none
  | v :: stack => some (v, { m with stack })

/-- Takes a number of things from the stack. -/
def count? (m : Machine) : Option (Nat × Machine) := do
  let (v, m) ← m.pop?
  match v with
  | .int n => return (n.toNat, m)
  | _ => none

/-- The innermost loop, changed. -/
def alter? (m : Machine) (f : Frame → Option Frame) : Option Machine :=
  match m.frames with
  | [] => none
  | frame :: frames => (f frame).map fun frame => { m with frames := frame :: frames }

/-- Leaves what is known of the innermost loop on the stack. -/
def tell? (m : Machine) (f : Frame → Option Value) : Option Machine := do return m.push (← f (← m.frames.head?))

/-- Goes on at another place. -/
def goTo (m : Machine) (place : Nat) : Machine := { m with place }

/-! ## Steps -/

/-- Whether a test holds, if it can be made. -/
def holds? (m : Machine) : Test → Option Bool
  | .always => some true
  | .isTrue => m.stack.head?.bind Value.truth?
  | .isFalse => (m.stack.head?.bind Value.truth?).map (!·)
  | .isNothing => m.stack.head?.map Value.isNil
  | .isSomething => m.stack.head?.map fun v => !v.isNil
  | .atEnd => m.frames.head?.map fun f => (f.items.size : Int) ≤ f.index

/-- The element that a loop is at. -/
def element? (f : Frame) : Option Value := if f.index < 0 then none else (f.items[f.index.toNat]?).join

/-- The value of an operation on a value. -/
def unary? (op : UnaryOp) (v : Value) : Option Value :=
  match op with
  | .not _ => v.truth?.map fun b => .bool !b
  | .minus => v.negate?
  | .plus => some v

/-- Whether two values are equal; integers and texts have to be what they are known to be. -/
def equal? (how : Equality) (a b : Value) : Option Bool :=
  match how, a, b with
  | .ints, .int m, .int n => some (m == n)
  | .texts, .text s, .text t => some (s == t)
  | .values, a, b => some (a.plain.same b.plain)
  | _, _, _ => none

/-- Whether a value is one of some integers; nothing counts as zero. -/
def amongInts? (ns : List Int) : Value → Option Bool
  | .int n => some (ns.contains n)
  | .nil => some (ns.contains 0)
  | _ => none

/-- Whether a value is one of some texts; nothing counts as the empty text. -/
def amongTexts? (ts : List Text) : Value → Option Bool
  | .text t => some (ts.contains t)
  | .nil => some (ts.contains [])
  | _ => none

/-- Whether a pattern occurs in a value; it does not in nothing. -/
def matching? (pattern : Regex) : Value → Option Bool
  | .text t => some (pattern.occursIn t)
  | v => if v.isNil then some false else none

/-- The integers between two values on the stack, both included. -/
def range? (m : Machine) : Option Machine :=
  match m.stack with
  | b :: a :: stack => do
    let lo ← a.place?
    let hi ← b.place?
    let size := (Word.wrap (hi - lo + 1)).toNat
    let m ← m.grow? size
    return { m with stack := .list .ints true ((List.range size).map fun (i : Nat) => .int (lo + i)) :: stack }
  | _ => none

/-- A list of values on the stack. -/
def list? (m : Machine) : Option Machine := do
  let (n, m) ← m.count?
  let (vs, m) ← (← m.grow? n).take? n
  return m.push (.ofList vs)

/-- The keys and the values of a map. -/
def pairs : List Value → List (Value × Value)
  | k :: v :: rest => (k, v) :: pairs rest
  | _ => []

/-- A map of keys and values on the stack. Keys are texts, and of two equal ones the first counts. -/
def mapping? (m : Machine) : Option Machine := do
  let (n, m) ← m.count?
  let (vs, m) ← (← m.grow? n).take? (2 * n)
  let entries ← (pairs vs).mapM fun e => (Value.text? e.1).map fun t => (Value.text t, e.2)
  return m.push (.map .named (entries.reverse.foldl (fun es e => Value.put es e.1 e.2) []))

/-- A call of a function with values on the stack. -/
def call? (m : Machine) (now : Log.Instant) (f : String) (n : Nat) : Option Machine := do
  let (args, m) ← m.take? n
  let (v, size) ← callValue? now f args
  return (← m.grow? size).push v

/-- A call of the value on top of the stack with values below it. -/
def invoke? (m : Machine) (n : Nat) (exact : Bool) : Option Machine := do
  let (f, m) ← m.pop?
  let (args, m) ← m.take? n
  if exact && args.any Value.isNil then none else return m.push (← f.invoke? args)

/-- Enters a loop over the elements of the value on top of the stack. -/
def enter? (m : Machine) : Option Machine := do
  let (v, m) ← m.pop?
  let items ← v.elements?
  return { m with frames := { items := items.toArray } :: m.frames }

/-- Puts the element of a loop in the group with a key. -/
def group? (key : Value) (f : Frame) : Option Frame := do
  let v ← element? f
  match f.tally with
  | .groups gs => if key.isKey then some { f with tally := .groups (Tally.group gs key v) } else none
  | _ => none

/-- Keeps the element of a loop with its key. -/
def keyed? (key : Value) (f : Frame) : Option Frame := do
  let v ← element? f
  match f.tally with
  | .keyed descending items => some { f with tally := .keyed descending ((key, v) :: items) }
  | _ => none

/-- Leaves the elements of a loop in the order of their keys. -/
def sort? (m : Machine) : Option Machine := do
  let f ← m.frames.head?
  match f.tally with
  | .keyed descending items => return (← m.grow? f.items.size).push (.ofList (← sortBy? descending items.reverse))
  | _ => none

/-- What an instruction does, after the machine has gone on to the next place. -/
def step? (c : Context) (m : Machine) : Instruction → Option Machine
  | .push v => m.push v
  | .pop => m.pop?.map (·.2)
  | .entry => m.push (.entry c.entry)
  | .field x => (Value.field? c.entry (ofString x)).map m.push
  | .load slot => (m.names[slot]?).map m.push
  | .store slot => m.pop?.map fun (v, m) => { m with names := m.names.setIfInBounds slot v }
  | .fetch => m.combine? Value.fetch?
  | .ask x => m.map? fun v => v.method? (ofString x)
  | .unary op => m.map? (unary? op)
  | .equal how negated => m.combine? fun a b => (equal? how a b).map fun yes => .bool (yes != negated)
  | .operate op => m.combine? (Value.operate? op)
  | .range => m.range?
  | .matching pattern => m.map? fun v => (matching? pattern v).map .bool
  | .amongInts ns => m.map? fun v => (amongInts? ns v).map .bool
  | .amongTexts ts => m.map? fun v => (amongTexts? ts v).map .bool
  | .jump test target => (m.holds? test).map fun yes => if yes then m.goTo target else m
  | .list => m.list?
  | .map => m.mapping?
  | .length => (m.stack.head?.bind Value.length?).map fun n => m.push (.int n)
  | .slice =>
    match m.stack with
    | lo :: hi :: v :: stack => (v.slice? lo hi).map fun w => { m with stack := w :: stack }
    | _ => none
  | .call f n => m.call? c.now f n
  | .invoke n exact => m.invoke? n exact
  | .fail => none
  | .enter => m.enter?
  | .leave =>
    match m.frames with
    | [] => none
    | _ :: frames => some { m with frames }
  | .element => m.tell? element?
  | .index => m.tell? fun f => some (.int f.index)
  | .hits => m.tell? fun f => some (.int f.hits)
  | .size => m.tell? fun f => some (.int f.items.size)
  | .reduced => m.tell? fun f => some f.tally.result
  | .keep => m.pop?.bind fun (v, m) => m.alter? fun f => some { f with tally := .value v }
  | .hit => m.alter? fun f => some { f with hits := f.hits + 1 }
  | .next target => (m.alter? fun f => some { f with index := f.index + 1 }).map (·.goTo target)
  | .previous target => (m.alter? fun f => some { f with index := f.index - 1 }).map (·.goTo target)
  | .fromLast => m.alter? fun f => some { f with index := f.items.size - 1 }
  | .isBefore => m.tell? fun f => some (.bool (f.index < 0))
  | .grouping => m.alter? fun f => some { f with tally := .groups [] }
  | .group => m.pop?.bind fun (key, m) => m.alter? (group? key)
  | .ordering => m.pop?.bind fun (order, m) => do
    let descending ← descending? (← order.text?)
    m.alter? fun f => some { f with tally := .keyed descending [] }
  | .keyed => m.pop?.bind fun (key, m) => m.alter? (keyed? key)
  | .sort => m.sort?
  | .truth => m.map? fun
    | .nil => some (.bool false)
    | .bool b => some (.bool b)
    | _ => none

/-- Runs instructions until there is none at the next place; at most `n` steps are taken. -/
def run? (code : Array Instruction) (c : Context) : (n : Nat) → Machine → Option Machine
  | 0, _ => none
  | n + 1, m =>
    match code[m.place]? with
    | none => some m
    | some i =>
      match step? c (m.goTo (m.place + 1)) i with
      | none => none
      | some m => run? code c n m

/-- More steps than any filter takes in a lifetime. -/
def patience : Nat := 1000000000000000

end Machine

/-- Whether a filter accepts an entry, unless it fails there. A machine that has left its program has no truth value but
the one it leaves. -/
def Program.accepts? (p : Program) (now : Log.Instant) (entry : Entry) : Option Bool :=
  (Machine.run? p.code { entry, now } Machine.patience { names := Array.replicate p.slots .nil }).map fun m =>
    (m.stack.head?.bind Value.truth?).getD false

end Literate.Filter
