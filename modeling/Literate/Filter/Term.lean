import Literate.Filter.Expr
import Literate.Filter.Value

/-!
# Checked filters

The terms that a checked filter is made of: every name is resolved, comparisons know whether they compare integers or
texts, and constants are values.
-/

namespace Literate.Filter

/-- How two values are compared: integers and texts are told apart from values of all sorts. -/
inductive Equality where
  | ints
  | texts
  | values
deriving DecidableEq, Repr

/-- What is at hand in a loop: the element, its place, and what a reduction came to before it. -/
inductive Pointer where
  | element
  | index
  | reduced
deriving DecidableEq, Repr

/-- A checked expression. -/
inductive Term where
  | const (v : Value)
  /-- A floating-point number where natures are not checked: it has to be worked out to be one that is known. -/
  | loose (x : Float)
  | name (x : String)
  /-- The entry itself. -/
  | entry
  | pointer (p : Pointer)
  | unary (op : UnaryOp) (e : Term)
  | equal (how : Equality) (negated : Bool) (l r : Term)
  | binary (op : BinaryOp) (l r : Term)
  /-- Whether a value is in another; `whole` says that the value is known to be an integer. -/
  | within (whole : Bool) (l r : Term)
  /-- Whether an integer is one of some integers. -/
  | amongInts (e : Term) (ns : List Int)
  /-- Whether a text is one of some texts. -/
  | amongTexts (e : Term) (ts : List Text)
  | cond (c a b : Term)
  | bind (x : String) (value body : Term)
  | andThen (a b : Term)
  /-- Two conditions on the elements of a list, of which the second is asked only where the first holds. -/
  | also (p q : Term)
  | list (items : List Term)
  | map (entries : List (Term × Term))
  | member (e key : Term) (optional : Bool)
  /-- What can be done with a value whose nature is known, given by a name. -/
  | method (e : Term) (name : String) (optional : Bool)
  | chain (e : Term)
  | slice (e lo hi : Term)
  /-- A part that is not given: a bound of a slice, a predicate, an order or a start. -/
  | absent
  | call (function : String) (arguments : List Term)
  | invoke (callee : Term) (arguments : List Term)
  | loop (f : Loop) (source predicate : Term)
  /-- The elements of a list of which something is true, each with what becomes of it; if that is not given, nothing
  becomes of it. -/
  | select (source predicate image : Term)
  /-- The first or last element of which something is true, with what becomes of it; one that `must` be there is not
  nothing. -/
  | search (last must : Bool) (source predicate image : Term)
  | sortBy (source key order : Term)
  | reduce (source step start : Term)

namespace Term

/-- A constant integer. -/
def int? : Term → Option Int
  | const (.int n) => some n
  | _ => none

/-- A constant floating-point number. -/
def float? : Term → Option Float
  | const (.float x) | loose x => some x
  | _ => none

/-- A constant number. -/
def number? : Term → Option Float
  | const (.int n) => some (Float.ofInt n)
  | const (.float x) | loose x => some x
  | _ => none

/-- A constant text. -/
def text? : Term → Option Text
  | const (.text t) => some t
  | _ => none

/-- A constant truth value. -/
def bool? : Term → Option Bool
  | const (.bool b) => some b
  | _ => none

/-- A constant that stands for itself in a list of constants. -/
def scalar? : Term → Option Value
  | const (.int n) => some (.int n)
  | const (.float x) | loose x => some (.float x)
  | const (.text t) => some (.text t)
  | const (.bool b) => some (.bool b)
  | _ => none

end Term

end Literate.Filter
