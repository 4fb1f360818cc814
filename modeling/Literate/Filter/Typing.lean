import Literate.Filter.Signature
import Literate.Filter.Syntax
import Literate.Filter.Term
import Literate.Regex.Parser

/-!
# Checking filters

Every expression of a filter has a nature, and operations are checked against the natures of their operands. Where
nothing is known of a value, what it is cut by or called with is taken as it is; a name that stands for nothing is then
found out when the filter is evaluated.
-/

namespace Literate.Filter

open Text

/-- What names stand for. -/
structure Scope where
  names : List (String × Nature) := []
  /-- The lists whose elements are at hand, the innermost first, and what else is known of the element. -/
  lists : List (Nature × List (String × Nature)) := []
  /-- Whether natures are checked; where they are not, all of them are unknown. -/
  strict : Bool := true

/-- The natures of the fields of an entry. -/
def fieldNatures : List (String × Nature) :=
  [("kind", .text), ("name", .text), ("lines", .int), ("elements", .int), ("uses", .texts)]

/-- A term with its nature. -/
abbrev Typed := Term × Nature

/-- The name by which the entry itself is known. -/
def entryName : String := "$env"

/-- A field of the entry that is looked for when the filter is evaluated. -/
def lateField (x : String) : Term := .member .entry (.const (.text (ofString x))) false

/-- How values of two natures are compared. -/
def equality (m n : Nature) : Equality :=
  if m = .int && n = .int then .ints else if m = .text && n = .text then .texts else .values

/-- The term of an operation on values of two natures. -/
def operation (op : BinaryOp) (l r : Typed) : Term :=
  match op with
  | .eq => .equal (equality l.2 r.2) false l.1 r.1
  | .ne => .equal (equality l.2 r.2) true l.1 r.1
  | .within => .within (l.2.shape = .int) l.1 r.1
  | op => .binary op l.1 r.1

/-- Whether a term is a constant text that is no well-formed pattern. -/
def isBadPattern (e : Term) : Bool := e.text?.any fun pattern => (Regex.parse? pattern).isNone

/-- A pointer by its name. -/
def pointer? (x : String) : Option Pointer :=
  if x = "" then some .element else if x = "index" then some .index else if x = "acc" then some .reduced else none

/-- The term of a loop. -/
def loopTerm (f : Loop) (source predicate start : Term) : Term :=
  match f with
  | .filter => .select source predicate .absent
  | .find => .search false false source predicate .absent
  | .findLast => .search true false source predicate .absent
  | .sortBy => .sortBy source predicate start
  | .reduce => .reduce source predicate start
  | f => .loop f source predicate

/-- The string of a constant text, if it is one. -/
def constant? (key : Term) : Option String := key.text?.bind toString?

/-- A term with its nature, as far as natures are checked. -/
def Scope.typed (s : Scope) (t : Term) (n : Nature) : Typed := (t, if s.strict then n else .unknown)

/-- The scope in which natures are not checked. -/
def Scope.lax (s : Scope) : Scope := { s with strict := false }

/-- Whether an expression is the name of the entry itself, even if that stands for another value. -/
def isEntry : Expr → Bool
  | .name x => x = entryName
  | _ => false

/-- What a name stands for. -/
def Scope.find? (s : Scope) (x : String) : Option Typed :=
  match (s.names.lookup x).or (fieldNatures.lookup x) with
  | some n => some (s.typed (.name x) n)
  | none =>
    if x = entryName then some (.entry, .unknown)
    else if isFunction x then some (s.typed (lateField x) (.function x))
    else if s.strict then none
    else some (lateField x, .unknown)

/-- The nature of a field of the entry itself; one that is optional need not be known. -/
def Scope.field? (s : Scope) (x : String) (optional : Bool) : Option Nature :=
  match fieldNatures.lookup x with
  | some n => some n
  | none => if optional ∨ !s.strict then some .unknown else none

/-- Whether a name can be given to a value. -/
def Scope.admits (s : Scope) (x : String) : Bool :=
  !s.strict || ((fieldNatures.lookup x).isNone && !isFunction x && (s.names.lookup x).isNone)

/-- What is at hand in the innermost loop. -/
def Scope.pointer? (s : Scope) (x : String) : Option Typed :=
  match s.lists with
  | [] => none
  | (list, more) :: _ => do
    let p ← Filter.pointer? x
    let n ← if x = "" then some (if list.isUnknown then .unknown else list.item)
      else if s.strict then more.lookup x else some .unknown
    return s.typed (.pointer p) n

/-- A checked operation. A constant pattern has to be well-formed. -/
def Scope.binary? (s : Scope) (op : BinaryOp) (l r : Typed) : Option Typed := do
  let n ← Nature.binary? op l.2 r.2
  if s.strict ∧ op = .matching ∧ isBadPattern r.1 then none else return s.typed (operation op l r) n

/-- A checked condition with its branches. -/
def Scope.cond? (s : Scope) (c a b : Typed) : Option Typed :=
  if c.2 = .bool ∨ c.2.isUnknown then some (s.typed (.cond c.1 a.1 b.1) (a.2.choice b.2)) else none

/-- What is found in a value under a key: what can be done with the value, if its nature says so. -/
def Scope.member? (s : Scope) (e key : Typed) (optional : Bool) : Option Typed := do
  let n ← Nature.member? e.2 key.2 (constant? key.1)
  match (constant? key.1).filter e.2.asks.contains with
  | some x => return s.typed (.method e.1 x optional) n
  | none => return s.typed (.member e.1 key.1 optional) n

/-- The call of a function that every filter knows. In a zone that is known to be one, a date is another one. -/
def callTerm (f : String) (arguments : List Typed) : Term :=
  let inZone := f = "date" ∧ (arguments.head?.any fun a => a.2 = .zone)
  .call (if inZone then "date in" else f) (arguments.map (·.1))

/-- Whether a call of what can be done with a value fails, because that has a name: what it is done with then counts as
something that it takes, so that too little is given where such calls are known, and a zone is not given as a handle. -/
def isMiscalled (callee : Typed) (arguments : List Typed) : Bool :=
  match callee with
  | (.name _, .method _ x) => x ∈ ["Abs", "IsDST", "IsZero"] || (x = "In" && arguments.any fun a => a.2 = .zone)
  | _ => false

/-- The nature of what a value gives when it is called. -/
def invokeNature? (callee : Nature) (arguments : List Nature) : Option Nature :=
  match callee with
  | .function f => callNature? f arguments
  | .method owner x =>
    (owner.methods.lookup x).bind fun (wanted, result) => if Nature.accepts wanted arguments then some result else none
  | n => if n.isUnknown then some .unknown else none

mutual

/-- The checked form of an expression, with its nature. -/
def check : Expr → Scope → Option Typed
  | .nil => fun s => some (s.typed (.const .nil) .nil)
  | .bool b => fun s => some (s.typed (.const (.bool b)) .bool)
  | .int n => fun s => some (s.typed (.const (.int n)) .int)
  | .float x => fun s => some (s.typed (if s.strict then .const (.float x) else .loose x) .float)
  | .text t => fun s => some (s.typed (.const (.text t)) .text)
  | .name x => fun s => s.find? x
  | .pointer x => fun s => s.pointer? x
  | .unary op e => fun s => do
    let (e, n) ← check e s
    return s.typed (.unary op e) (← Nature.unary? op n)
  | .binary op l r => fun s => do
    let l ← check l s
    let r ← check r s
    s.binary? op l r
  | .ordered first rest => fun s => do
    let l ← check first s
    checkOrdered rest s none l
  | .cond c a b | .branches c a b => fun s => do
    let c ← check c s
    let a ← check a s
    let b ← check b s
    s.cond? c a b
  | .orElse c b => fun s => do
    let c ← check c s
    let b ← check b s
    s.cond? c c b
  | .bind x value body => fun s =>
    if s.admits x then do
      let (value, n) ← check value s
      let (body, m) ← check body { s with names := (x, n) :: s.names }
      return s.typed (.bind x value body) m
    else none
  | .sequence first rest => fun s => do
    let e ← check first s
    checkSequence rest s e
  | .list items => fun s => do
    let items ← checkAll items s
    return s.typed (.list (items.map (·.1))) (.listOfAll (items.map (·.2)))
  | .map entries => fun s => do return s.typed (.map (← checkEntries entries s)) .names
  | .member e key optional => fun s =>
    if isEntry e then do
      let (e, _) ← s.find? entryName
      let (key, _) ← check key s.lax
      let n ← match constant? key with
        | some x => s.field? x optional
        | none => some .unknown
      return s.typed (.member e key optional) n
    else do
      let e ← check e s
      let key ← check key s
      s.member? e key optional
  | .chain e => fun s => do
    let (e, n) ← check e s
    return s.typed (.chain e) n
  | .slice e lo hi => fun s => do
    let (e, n) ← check e s
    let inner := if n.isUnknown then s.lax else s
    let (lo, a) ← check lo inner
    let (hi, b) ← check hi inner
    let bound := fun (m : Nature) => m.isInteger || m.isUnknown
    if n.isUnknown ∨ ((n = .text ∨ n.isList) ∧ bound a ∧ bound b) then return s.typed (.slice e lo hi) n.opened else none
  | .absent => fun _ => some (.absent, .unknown)
  | .call f arguments => fun s => do
    let checked ← checkAll arguments s
    if s.strict then
      let n ← callNature? f (checked.map (·.2))
      let n := match f, arguments with
        | "get", [e, .text t] => if isEntry e then ((toString? t).bind (s.field? · true)).getD .unknown else n
        | _, _ => n
      return (callTerm f checked, n)
    else return (callTerm f checked, .unknown)
  | .invoke callee arguments => fun s => do
    let (callee, n) ← check callee s
    let checked ← checkAll arguments (if n.isUnknown then s.lax else s)
    let callee := if isMiscalled (callee, n) checked then .const .nil else callee
    return s.typed (.invoke callee (checked.map (·.1))) (← invokeNature? n (checked.map (·.2)))
  | .loop f source predicate start => fun s => do
    let (list, n) ← check source s
    if n.isList ∨ n.isUnknown then
      let (p, asked) ← check predicate { s with lists := (n, pointerNatures f) :: s.lists }
      let (first, _) ← check start s
      let result ← if predicate.isAbsent then some (if f = .count then .int else if n.isUnknown then .unknown else n.item)
        else loopNature? f n asked
      return s.typed (loopTerm f list p first) result
    else none

/-- The checked form of orderings after the first operand `l`; each of them and those `before` have to hold. -/
def checkOrdered : List (BinaryOp × Expr) → Scope → (before : Option Typed) → (l : Typed) → Option Typed
  | [] => fun _ before l => some (before.getD l)
  | (op, r) :: rest => fun s before l => do
    let r ← check r s
    let this ← s.binary? op l r
    let whole ← match before with
      | none => some this
      | some b => s.binary? (.and false) b this
    checkOrdered rest s (some whole) r

/-- The checked form of a value and those after it, of which the last counts. -/
def checkSequence : List Expr → Scope → (first : Typed) → Option Typed
  | [] => fun _ first => some first
  | e :: es => fun s first => do
    let e ← check e s
    let (rest, n) ← checkSequence es s e
    return s.typed (.andThen first.1 rest) n

/-- The checked forms of expressions. -/
def checkAll : List Expr → Scope → Option (List Typed)
  | [] => fun _ => some []
  | e :: es => fun s => do
    let e ← check e s
    let es ← checkAll es s
    return e :: es

/-- The checked forms of the entries of a map. -/
def checkEntries : List (Expr × Expr) → Scope → Option (List (Term × Term))
  | [] => fun _ => some []
  | (k, v) :: es => fun s => do
    let (k, _) ← check k s
    let (v, _) ← check v s
    let es ← checkEntries es s
    return (k, v) :: es

end

end Literate.Filter
