import Literate.Filter.Simplify

/-!
# Instructions of filters

A filter is run as instructions for a machine with a stack. `Term.assemble` writes the instructions of a term one after
another; jumps forward are written before it is known where they lead, and are set when that place is reached. A program
leaves one value on the stack above what was there before, as long as no optional look-up is cut short: values that such
a look-up leaves behind stay where they are, and what takes values from the stack finds them there.
-/

namespace Literate.Filter

open Text

/-- What a jump depends on: the value on top of the stack, or whether a loop has come to its end. -/
inductive Test where
  | always
  | isTrue
  | isFalse
  | isNothing
  | isSomething
  | atEnd
deriving DecidableEq, Repr

/-- What a machine does in one step. Operands are taken from the stack, and results are left there. -/
inductive Instruction where
  | push (v : Value)
  | pop
  | entry
  | field (x : String)
  | load (slot : Nat)
  | store (slot : Nat)
  | fetch
  /-- What can be done with a value, by a name. -/
  | ask (x : String)
  | unary (op : UnaryOp)
  | equal (how : Equality) (negated : Bool)
  | operate (op : BinaryOp)
  | range
  | matching (pattern : Regex)
  | amongInts (ns : List Int)
  | amongTexts (ts : List Text)
  | jump (test : Test) (target : Nat)
  /-- A list of as many values as the number on top says. -/
  | list
  /-- A map of as many keys and values as the number on top says. -/
  | map
  /-- The length of the value on top, which stays. -/
  | length
  | slice
  | call (f : String) (count : Nat)
  /-- A call of the value on top with some values below it; an `exact` one does not take nothing for another value. -/
  | invoke (count : Nat) (exact : Bool)
  | fail
  /-- A loop over the elements of a value begins. -/
  | enter
  | leave
  | element
  | index
  /-- How many elements have been counted. -/
  | hits
  /-- The number of elements. -/
  | size
  /-- What the elements so far came to. -/
  | reduced
  | keep
  | hit
  /-- The next element, and back to the start of the loop. -/
  | next (target : Nat)
  /-- The element before, and back to the start of the loop. -/
  | previous (target : Nat)
  /-- From the last element on. -/
  | fromLast
  /-- Whether there is no element before. -/
  | isBefore
  /-- Elements are put in groups from now on. -/
  | grouping
  | group
  /-- Elements are put in order from now on. -/
  | ordering
  | keyed
  | sort
  /-- The truth value that the filter comes to. -/
  | truth

/-- The instructions of a filter, and how many values they give names to. -/
structure Program where
  code : Array Instruction
  slots : Nat

/-! ## Writing instructions -/

/-- What has been written so far. -/
structure Draft where
  code : Array Instruction := #[]
  /-- The places of the jumps out of the chains of look-ups that are being written, the innermost first. -/
  chains : List (List Nat) := []
  names : List (String × Nat) := []
  slots : Nat := 0
  /-- The first floating-point zero. -/
  zero : Option Float := none

/-- Something that writes instructions. -/
abbrev Assembly := StateT Draft Option

namespace Assembly

/-- Writes an instruction. -/
def emit (i : Instruction) : Assembly PUnit := modify fun d => { d with code := d.code.push i }

/-- Writes a constant. A zero has the sign of the first floating-point zero of the program. -/
def constant (v : Value) : Assembly PUnit := do
  match v with
  | .float x =>
    let zero := (← get).zero.getD x
    if x == 0 then
      modify fun d => { d with zero }
      emit (.push (.float zero))
    else emit (.push v)
  | v => emit (.push v)

/-- The place of the next instruction. -/
def here : Assembly Nat := return (← get).code.size

/-- Where a jump leads that is never set: beyond the end of every program. -/
def nowhere : Nat := 1000000000000

/-- Writes a jump forward, and gives its place. -/
def jump (test : Test) : Assembly Nat := do
  let place ← here
  emit (.jump test nowhere)
  return place

/-- Makes the jump at a place lead to the next instruction. -/
def land (place : Nat) : Assembly PUnit := modify fun d =>
  { d with code := d.code.modify place fun
      | .jump test _ => .jump test d.code.size
      | i => i }

/-- Something that is left out if a test of the value on top holds; otherwise it takes the place of that value. -/
def insteadUnless (test : Test) (body : Assembly PUnit) : Assembly PUnit := do
  let past ← jump test
  emit .pop
  body
  land past

/-- Something that is done if the value on top is true; that value is gone afterwards. -/
def whenTrue (body : Assembly PUnit) : Assembly PUnit := do
  let skip ← jump .isFalse
  emit .pop
  body
  let past ← jump .always
  land skip
  emit .pop
  land past

/-- A loop over the elements of a value from the first one on. -/
def loop {α : Type} (body : Assembly α) : Assembly α := do
  let start ← here
  let stop ← jump .atEnd
  let a ← body
  emit (.next start)
  land stop
  return a

/-- A loop over the elements of a value from the last one on. What says that there are no more stays on the stack. -/
def loopBack {α : Type} (body : Assembly α) : Assembly α := do
  emit .fromLast
  let start ← here
  emit .isBefore
  let stop ← jump .isTrue
  let a ← body
  emit (.previous start)
  land stop
  return a

/-- A loop that ends with the answer to a question about an element, or else with another value. -/
def untilAnswer (test : Test) (question : Assembly PUnit) (otherwise : Bool) : Assembly PUnit := do
  let out ← loop do
    question
    let out ← jump test
    emit .pop
    return out
  emit (.push (.bool otherwise))
  land out

/-- A loop that ends with what becomes of the first element of which something is true. -/
def untilFound (last : Bool) (question image : Assembly PUnit) (otherwise : Assembly PUnit) : Assembly PUnit := do
  let body : Assembly Nat := do
    question
    let skip ← jump .isFalse
    emit .pop
    image
    let out ← jump .always
    land skip
    emit .pop
    return out
  let out ← if last then loopBack body else loop body
  otherwise
  land out

/-- A loop that counts the elements of which something is true, with what else is done for them. -/
def counting (question body : Assembly PUnit) : Assembly PUnit := do
  loop do
    question
    whenTrue do
      emit .hit
      body
  emit .hits

/-- Something, or the element at hand where nothing is given. -/
def orElement (e : Term) (written : Assembly PUnit) : Assembly PUnit :=
  match e with
  | .absent => emit .element
  | _ => written

/-- Something, or something else where nothing is given. -/
def orElse (e : Term) (written otherwise : Assembly PUnit) : Assembly PUnit :=
  match e with
  | .absent => otherwise
  | _ => written

/-- The instructions of a loop, given those of what is asked of every element. -/
def ofLoop (f : Loop) (question : Assembly PUnit) : Assembly PUnit :=
  match f with
  | .all => untilAnswer .isFalse question true
  | .any => untilAnswer .isTrue question false
  | .none => untilAnswer .isFalse (do question; emit (.unary (.not true))) true
  | .one => do
    counting question (pure ⟨⟩)
    emit (.push (.int 1))
    emit (.equal .values false)
  | .count => counting question (pure ⟨⟩)
  | .map => do
    loop question
    emit .size
  | .sum => do
    emit (.push (.int 0))
    emit .keep
    loop do
      question
      emit .reduced
      emit (.operate .add)
      emit .keep
    emit .reduced
  | .findIndex => untilFound false question (emit .index) (emit (.push .nil))
  | .findLastIndex => untilFound true question (emit .index) (emit (.push .nil))
  | .groupBy => do
    emit .grouping
    loop do
      question
      emit .group
    emit .reduced
  | .filter | .find | .findLast | .sortBy | .reduce => emit .fail

end Assembly

open Assembly

/-- Functions that take one value, whatever they are given. -/
def takesOne (f : String) : Bool :=
  f ∈ ["len", "type", "abs", "ceil", "floor", "round", "int", "float", "string", "upper", "lower"]

/-- Whether a call of a term takes values of the natures that are wanted only: what is called is known, and is often
called. -/
def Term.isExact : Term → Bool
  | .method _ x _ => !(["AddDate", "AppendBinary", "AppendFormat", "AppendText", "Compare", "In"].contains x)
  | _ => false

mutual

/-- Writes the instructions of a term. One that is an operand of `??` can leave nothing in whatever form it is. -/
def Term.assemble : Term → (coalesced : Bool) → Assembly PUnit
  | .const v => fun _ => constant v
  | .loose _ => fun _ => failure
  | .name x => fun _ => do
    match (← get).names.lookup x with
    | some slot => emit (.load slot)
    | none => emit (.field x)
  | .entry => fun _ => emit .entry
  | .pointer .element => fun _ => emit .element
  | .pointer .index => fun _ => emit .index
  | .pointer .reduced => fun _ => emit .reduced
  | .unary op e => fun _ => do
    e.assemble false
    if op ≠ .plus then emit (.unary op)
  | .equal how negated l r => fun _ => do
    l.assemble false
    r.assemble false
    emit (.equal how negated)
  | .binary (.and _) l r => fun _ => do
    l.assemble false
    insteadUnless .isFalse (r.assemble false)
  | .binary (.or _) l r => fun _ => do
    l.assemble false
    insteadUnless .isTrue (r.assemble false)
  | .binary .coalesce l r => fun _ => do
    l.assemble true
    insteadUnless .isSomething (r.assemble true)
  | .binary .range l r => fun _ => do
    l.assemble false
    r.assemble false
    emit .range
  | .binary .matching l r => fun _ => do
    l.assemble false
    match r.text? with
    | some t => emit (.matching (← Regex.parse? t))
    | none =>
      r.assemble false
      emit (.operate .matching)
  | .binary op l r => fun _ => do
    l.assemble false
    r.assemble false
    emit (.operate op)
  | .within _ l r => fun _ => do
    l.assemble false
    r.assemble false
    emit (.operate .within)
  | .amongInts e ns => fun _ => do
    e.assemble false
    emit (.amongInts ns)
  | .amongTexts e ts => fun _ => do
    e.assemble false
    emit (.amongTexts ts)
  | .cond c a b => fun _ => do
    c.assemble false
    let otherwise ← jump .isFalse
    emit .pop
    a.assemble false
    let past ← jump .always
    land otherwise
    emit .pop
    b.assemble false
    land past
  | .bind x value body => fun _ => do
    value.assemble false
    let d ← get
    set { d with names := (x, d.slots) :: d.names, slots := d.slots + 1 }
    emit (.store d.slots)
    body.assemble false
    modify fun d => { d with names := d.names.tail }
  | .andThen a b => fun _ => do
    a.assemble false
    emit .pop
    b.assemble false
  | .also p q => fun _ => do
    p.assemble false
    insteadUnless .isFalse (q.assemble false)
  | .list items => fun _ => do
    assembleAll items
    emit (.push (.int items.length))
    emit .list
  | .map entries => fun _ => do
    assembleEntries entries
    emit (.push (.int entries.length))
    emit .map
  | .member e key optional => fun _ => do
    e.assemble false
    if optional then
      let out ← jump .isNothing
      match (← get).chains with
      | [] => failure
      | outs :: chains => modify fun d => { d with chains := (out :: outs) :: chains }
    key.assemble false
    emit .fetch
  | .method e x _ => fun _ => do
    e.assemble false
    emit (.ask x)
  | .chain e => fun coalesced => do
    modify fun d => { d with chains := [] :: d.chains }
    e.assemble false
    ((← get).chains.headD []).forM land
    -- In an operand of `??` the jumps stay open: the next chain to end sets them again.
    if coalesced then return
    let past ← jump .isSomething
    emit .pop
    emit (.push .nil)
    land past
    modify fun d => { d with chains := d.chains.tail }
  | .slice e lo hi => fun _ => do
    e.assemble false
    orElse hi (hi.assemble false) (emit .length)
    orElse lo (lo.assemble false) (emit (.push (.int 0)))
    emit .slice
  | .absent => fun _ => failure
  | .call f arguments => fun _ => do
    assembleAll arguments
    emit (.call f (if takesOne f then 1 else arguments.length))
  | .invoke callee arguments => fun _ => do
    assembleAll arguments
    callee.assemble false
    emit (.invoke arguments.length callee.isExact)
  | .loop f source predicate => fun _ => do
    source.assemble false
    emit .enter
    ofLoop f (orElement predicate (predicate.assemble false))
    emit .leave
    if f = .map then emit .list
  | .select source predicate image => fun _ => do
    source.assemble false
    emit .enter
    counting (predicate.assemble false) (orElement image (image.assemble false))
    emit .leave
    emit .list
  | .search last must source predicate image => fun _ => do
    source.assemble false
    emit .enter
    untilFound last (predicate.assemble false) (orElement image (image.assemble false))
      (emit (if must then .fail else .push .nil))
    emit .leave
  | .sortBy source key order => fun _ => do
    source.assemble false
    emit .enter
    orElse order (order.assemble false) (emit (.push (.text "asc")))
    emit .ordering
    loop do
      key.assemble false
      emit .keyed
    emit .sort
    emit .leave
  | .reduce source step start => fun _ => do
    source.assemble false
    emit .enter
    orElse start (do start.assemble false; emit .keep) do
      let empty ← jump .atEnd
      emit .element
      let place ← here
      emit (.next (place + 1))
      emit .keep
      let past ← jump .always
      land empty
      emit .fail
      land past
    loop do
      step.assemble false
      emit .keep
    emit .reduced
    emit .leave

/-- Writes the instructions of terms. -/
def assembleAll : List Term → Assembly PUnit
  | [] => pure ⟨⟩
  | e :: es => do
    e.assemble false
    assembleAll es

/-- Writes the instructions of the keys and the values of a map. -/
def assembleEntries : List (Term × Term) → Assembly PUnit
  | [] => pure ⟨⟩
  | (k, v) :: es => do
    k.assemble false
    v.assemble false
    assembleEntries es

end

/-- Reads a filter and writes its instructions. -/
def compile? (t : Text) : Option Program := do
  let e ← term? t
  let (_, d) ← (do e.assemble false; emit .truth : Assembly PUnit).run {}
  return { code := d.code, slots := d.slots }

end Literate.Filter
