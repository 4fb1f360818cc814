import Literate.Filter.Typing
import Literate.Filter.Written
import Literate.Power

/-!
# Simplifying filters

What constants decide is worked out before a filter is evaluated: `x and false` is `false` whatever `x` is, and lists of
constants are constants. Loops over the result of another loop become one loop. Every rule is applied to all terms of a
filter, from the inside out, before the next one.
-/

namespace Literate.Filter

open Text

/-! ## Applying a rule -/

mutual

/-- A term in which a rule is applied to every term from the inside out; it fails if the rule does. What becomes of
selected elements is left as it is. -/
def transform? (rule : Term → Option Term) : Term → Option Term
  | .unary op e => do rule (.unary op (← transform? rule e))
  | .equal how negated l r => do rule (.equal how negated (← transform? rule l) (← transform? rule r))
  | .binary op l r => do rule (.binary op (← transform? rule l) (← transform? rule r))
  | .within whole l r => do rule (.within whole (← transform? rule l) (← transform? rule r))
  | .amongInts e ns => do rule (.amongInts (← transform? rule e) ns)
  | .amongTexts e ts => do rule (.amongTexts (← transform? rule e) ts)
  | .cond c a b => do rule (.cond (← transform? rule c) (← transform? rule a) (← transform? rule b))
  | .bind x value body => do rule (.bind x (← transform? rule value) (← transform? rule body))
  | .andThen a b => do rule (.andThen (← transform? rule a) (← transform? rule b))
  | .also p q => do rule (.also (← transform? rule p) (← transform? rule q))
  | .list items => do rule (.list (← transformAll? rule items))
  | .map entries => do rule (.map (← transformEntries? rule entries))
  | .member e key optional => do rule (.member (← transform? rule e) (← transform? rule key) optional)
  | .chain e => do rule (.chain (← transform? rule e))
  | .slice e lo hi => do rule (.slice (← transform? rule e) (← transform? rule lo) (← transform? rule hi))
  | .call f arguments => do rule (.call f (← transformAll? rule arguments))
  | .method e x optional => do rule (.method (← transform? rule e) x optional)
  | .invoke callee arguments => do rule (.invoke (← transform? rule callee) (← transformAll? rule arguments))
  | .loop f source predicate => do rule (.loop f (← transform? rule source) (← transform? rule predicate))
  | .select source predicate image => do rule (.select (← transform? rule source) (← transform? rule predicate) image)
  | .search last must source predicate image => do
    rule (.search last must (← transform? rule source) (← transform? rule predicate) image)
  | .sortBy source key order => do
    rule (.sortBy (← transform? rule source) (← transform? rule key) (← transform? rule order))
  | .reduce source step start => do
    rule (.reduce (← transform? rule source) (← transform? rule step) (← transform? rule start))
  | e => rule e

/-- Terms in which a rule is applied. -/
def transformAll? (rule : Term → Option Term) : List Term → Option (List Term)
  | [] => some []
  | e :: es => do return (← transform? rule e) :: (← transformAll? rule es)

/-- Entries of a map in which a rule is applied. -/
def transformEntries? (rule : Term → Option Term) : List (Term × Term) → Option (List (Term × Term))
  | [] => some []
  | (k, v) :: es => do return (← transform? rule k, ← transform? rule v) :: (← transformEntries? rule es)

end

/-! ## Membership -/

/-- A look-up among constant integers or texts. -/
def among : Term → Term
  | .within whole e (.list items) =>
    match whole, items.mapM Term.int?, items.mapM Term.text? with
    | true, some ns, _ => if ns.isEmpty then .within whole e (.list items) else .amongInts e ns
    | _, _, some ts => if ts.isEmpty then .within whole e (.list items) else .amongTexts e ts
    | _, _, _ => .within whole e (.list items)
  | e => e

/-- A look-up of an integer between two constants. -/
def between : Term → Term
  | .within true e (.binary .range lo hi) =>
    match lo.int?, hi.int? with
    | some _, some _ => .binary (.and true) (.binary .ge e lo) (.binary .le e hi)
    | _, _ => .within true e (.binary .range lo hi)
  | e => e

/-! ## Constants -/

/-- An operation on constant numbers, of integers or of floating-point numbers. -/
def foldNumbers (op : BinaryOp) (onInts : Int → Int → Int) (onFloats : Float → Float → Float) (l r : Term) : Term :=
  match l.int?, r.int?, l.number?, r.number? with
  | some a, some b, _, _ => .const (.int (Word.wrap (onInts a b)))
  | _, _, some x, some y => .const (.float (onFloats x y))
  | _, _, _, _ => .binary op l r

/-- An operation on constant numbers whose result is a floating-point number. -/
def foldFloats (op : BinaryOp) (onFloats : Float → Float → Float) (l r : Term) : Term :=
  match l.number?, r.number? with
  | some x, some y => .const (.float (onFloats x y))
  | _, _ => .binary op l r

/-- A conjunction or a disjunction, of which one constant leaves the other side and the other decides. -/
def foldLogic (op : BinaryOp) (neutral : Bool) (l r : Term) : Term :=
  if l.bool? = some neutral then r
  else if r.bool? = some neutral then l
  else if l.bool? = some !neutral ∨ r.bool? = some !neutral then .const (.bool !neutral)
  else .binary op l r

/-- An operation on constants; the remainder of a division by zero fails. -/
def foldBinary? (op : BinaryOp) (l r : Term) : Option Term :=
  match op with
  | .add =>
    match l.text?, r.text? with
    | some s, some t => some (.const (.text (s ++ t)))
    | _, _ => some (foldNumbers op (· + ·) (· + ·) l r)
  | .sub => some (foldNumbers op (· - ·) (· - ·) l r)
  | .mul => some (foldNumbers op (· * ·) (· * ·) l r)
  | .div => some (foldFloats op (· / ·) l r)
  | .pow _ => some (foldFloats op power l r)
  | .mod =>
    match l.int?, r.int? with
    | some a, some b => if b = 0 then none else some (.const (.int (a.tmod b)))
    | _, _ => some (.binary op l r)
  | .and _ => some (foldLogic op true l r)
  | .or _ => some (foldLogic op false l r)
  | _ => some (.binary op l r)

/-- A comparison of constants. -/
def foldEqual (how : Equality) (l r : Term) : Term :=
  let decided := fun (b : Bool) => Term.const (.bool b)
  match l.int?, r.int?, l.text?, r.text?, l.bool?, r.bool? with
  | some a, some b, _, _, _, _ => decided (a == b)
  | _, _, some s, some t, _, _ => decided (s == t)
  | _, _, _, _, some a, some b => decided (a == b)
  | _, _, _, _, _, _ => .equal how false l r

/-- An operation on a constant. -/
def foldUnary (op : UnaryOp) (e : Term) : Term :=
  match op, e.int?, e.float?, e.bool? with
  | .minus, some n, _, _ => .const (.int (Word.wrap (-n)))
  | .minus, _, some x, _ => .const (.float (-x))
  | .plus, some _, _, _ => e
  | .plus, _, some x, _ => .const (.float x)
  | .not _, _, _, some b => .const (.bool !b)
  | _, _, _, _ => .unary op e

/-- What constants decide about a term. A selection of a selection is one with both conditions. -/
def foldTerm? : Term → Option Term
  | .unary op e => some (foldUnary op e)
  | .binary op l r => foldBinary? op l r
  | .equal how false l r => some (foldEqual how l r)
  | .list items =>
    match items.mapM Term.scalar? with
    | some vs => some (if vs.isEmpty then .list items else .const (.ofList vs))
    | none => some (.list items)
  | .select (.select source p _) q image => some (.select source (.also p q) image)
  | e => some e

/-! ## Loops -/

mutual

/-- Whether the place of an element is asked for in a term. -/
def asksIndex : Term → Bool
  | .pointer p => p == .index
  | .unary _ e | .amongInts e _ | .amongTexts e _ | .method e _ _ | .chain e => asksIndex e
  | .equal _ _ l r | .binary _ l r | .within _ l r | .andThen l r | .also l r | .bind _ l r | .member l r _ | .loop _ l r
  | .select l r _ | .search _ _ l r _ => asksIndex l || asksIndex r
  | .cond c a b | .slice c a b | .sortBy c a b | .reduce c a b => asksIndex c || asksIndex a || asksIndex b
  | .list items | .call _ items => asksIndexAll items
  | .map entries => asksIndexEntries entries
  | .invoke callee arguments => asksIndex callee || asksIndexAll arguments
  | .const _ | .loose _ | .name _ | .entry | .absent => false

/-- Whether the place of an element is asked for in terms. -/
def asksIndexAll : List Term → Bool
  | [] => false
  | e :: es => asksIndex e || asksIndexAll es

/-- Whether the place of an element is asked for in the entries of a map. -/
def asksIndexEntries : List (Term × Term) → Bool
  | [] => false
  | (k, v) :: es => asksIndex k || asksIndex v || asksIndexEntries es

end

/-- What becomes of selected elements, where it does not depend on their places. -/
def mapSelected : Term → Term
  | .loop .map (.select source p .absent) q =>
    if asksIndex q then .loop .map (.select source p .absent) q else .select source p q
  | e => e

/-- The number of selected elements. -/
def countSelected : Term → Term
  | .call "len" [.select source p _] => .loop .count source p
  | e => e

/-- The last or the first of the selected elements, which stands at a place. -/
def findSelected (last : Bool) (function : String) (place : Int) : Term → Term
  | .member (.select source p image) key false =>
    if key.int? = some place then .search last true source p image else .member (.select source p image) key false
  | .call f [.select source p image] =>
    if f = function then .search last false source p image else .call f [.select source p image]
  | e => e

/-- How conditions on the elements of one list are combined, if loops over it are. -/
def combinedOp? (f : Loop) (op : BinaryOp) : Option BinaryOp :=
  match f, op with
  | .all, .and word => some (.and word)
  | .any, .or word => some (.or word)
  | .none, .and word => some (.or word)
  | _, _ => none

/-- Two loops over the same list as one. -/
def combine (op : BinaryOp) : Term → Term → Term
  | .loop f source p, r =>
    match combinedOp? f op, r with
    | some op', .loop g source' q =>
      if f = g ∧ source.written = source'.written then .loop f source (combine op' p q)
      else .binary op (.loop f source p) (.loop g source' q)
    | _, _ => .binary op (.loop f source p) r
  | l, r => .binary op l r

/-- Loops over the same list as one. -/
def combineLoops : Term → Term
  | .binary op l r => combine op l r
  | e => e

/-- The sum of the items of a list that is written out. -/
def sumItems : Term → Term
  | .loop .sum (.list (e :: f :: es)) .absent =>
    match (e :: f :: es).reverse with
    | [] => .absent
    | last :: before => before.foldl (fun sum item => .binary .add item sum) last
  | e => e

/-- The sum of what becomes of the elements of a list. -/
def sumMapped : Term → Term
  | .loop .sum (.loop .map source p) .absent => .loop .sum source p
  | e => e

/-! ## All rules -/

/-- The rules in the order in which they are applied. -/
def rules : List (Term → Option Term) :=
  [some ∘ among, foldTerm?, some ∘ between, some ∘ mapSelected, some ∘ countSelected,
   some ∘ findSelected true "last" (-1), some ∘ findSelected false "first" 0, some ∘ combineLoops, some ∘ sumItems,
   some ∘ sumMapped]

/-- A checked filter in its simplest form. -/
def simplify? (e : Term) : Option Term := rules.foldlM (fun e rule => transform? rule e) e

/-- Reads a filter and checks that it is true or false as far as its nature says. -/
def term? (t : Text) : Option Term := do
  let e ← parse? t
  let (e, n) ← check e {}
  if n = .bool ∨ n.isUnknown then simplify? e else none

end Literate.Filter
