import Literate.Text.Basic

/-!
# Expressions of filters

The operators, and the expressions as they are written. What is looked up in a value by a name after a dot is looked up by
that name as a text.
-/

namespace Literate.Filter

/-- An operator before its operand. -/
inductive UnaryOp where
  /-- The negation of a truth value; `word` says that it is written as a word. -/
  | not (word : Bool)
  | minus
  | plus
deriving DecidableEq, Repr

/-- An operator between two operands. Some can be written in two ways: as words or as signs, and powers with a caret. -/
inductive BinaryOp where
  | or (word : Bool)
  | and (word : Bool)
  | eq
  | ne
  | lt
  | gt
  | ge
  | le
  | within
  | matching
  | containing
  | starting
  | ending
  | range
  | add
  | sub
  | mul
  | div
  | mod
  | pow (caret : Bool)
  /-- The first operand, unless it is nothing. -/
  | coalesce
deriving DecidableEq, Repr

/-- An operator before its operand as it is written. -/
def UnaryOp.sign : UnaryOp → String
  | not word => if word then "not" else "!"
  | minus => "-"
  | plus => "+"

/-- How tightly an operator before its operand binds. -/
def UnaryOp.precedence : UnaryOp → Nat
  | not _ => 50
  | minus | plus => 90

/-- An operator between two operands as it is written. -/
def BinaryOp.sign : BinaryOp → String
  | or word => if word then "or" else "||"
  | and word => if word then "and" else "&&"
  | eq => "=="
  | ne => "!="
  | lt => "<"
  | gt => ">"
  | ge => ">="
  | le => "<="
  | within => "in"
  | matching => "matches"
  | containing => "contains"
  | starting => "startsWith"
  | ending => "endsWith"
  | range => ".."
  | add => "+"
  | sub => "-"
  | mul => "*"
  | div => "/"
  | mod => "%"
  | pow caret => if caret then "^" else "**"
  | coalesce => "??"

/-- How tightly an operator between two operands binds. -/
def BinaryOp.precedence : BinaryOp → Nat
  | or _ => 10
  | and _ => 15
  | eq | ne | lt | gt | ge | le | within | matching | containing | starting | ending => 20
  | range => 25
  | add | sub => 30
  | mul | div | mod => 60
  | pow _ => 100
  | coalesce => 500

/-- Whether an operator combines truth values. -/
def BinaryOp.isLogical : BinaryOp → Bool
  | or _ | and _ => true
  | _ => false

/-- A function that looks at every element of a list. -/
inductive Loop where
  | all
  | none
  | any
  | one
  | filter
  | map
  | count
  | sum
  | find
  | findIndex
  | findLast
  | findLastIndex
  | groupBy
  | sortBy
  | reduce
deriving DecidableEq, Repr

/-- The name of a function that looks at every element of a list. -/
def Loop.name : Loop → String
  | all => "all"
  | none => "none"
  | any => "any"
  | one => "one"
  | filter => "filter"
  | map => "map"
  | count => "count"
  | sum => "sum"
  | find => "find"
  | findIndex => "findIndex"
  | findLast => "findLast"
  | findLastIndex => "findLastIndex"
  | groupBy => "groupBy"
  | sortBy => "sortBy"
  | reduce => "reduce"

/-- An expression. -/
inductive Expr where
  | nil
  | bool (b : Bool)
  | int (n : Int)
  | float (x : Float)
  | text (t : Text)
  | name (x : String)
  /-- The element at hand, or what a name says about it. -/
  | pointer (x : String)
  | unary (op : UnaryOp) (e : Expr)
  | binary (op : BinaryOp) (l r : Expr)
  /-- Orderings that follow each other, as in `1 < x <= 3`; each of them has to hold. -/
  | ordered (first : Expr) (rest : List (BinaryOp × Expr))
  | cond (c a b : Expr)
  /-- A condition with two branches in braces. -/
  | branches (c a b : Expr)
  /-- A condition that stands for itself where it holds, and another value otherwise. -/
  | orElse (c b : Expr)
  /-- A name for a value in the rest of the expression. -/
  | bind (x : String) (value body : Expr)
  /-- Values of which all but the last are computed and left alone. -/
  | sequence (first : Expr) (rest : List Expr)
  | list (items : List Expr)
  | map (entries : List (Expr × Expr))
  /-- What is found in a value under a key; an optional look-up does not look into nothing. -/
  | member (e key : Expr) (optional : Bool)
  /-- Look-ups of which the optional ones end all. -/
  | chain (e : Expr)
  | slice (e lo hi : Expr)
  /-- A part that is not given: a bound of a slice, a predicate or the start of a reduction. -/
  | absent
  /-- A call of a function that every filter knows. -/
  | call (function : String) (arguments : List Expr)
  /-- A call of what is found under a name or in a value. -/
  | invoke (callee : Expr) (arguments : List Expr)
  /-- A function that looks at every element of a list; a reduction may have a start, and a sorting an order. -/
  | loop (f : Loop) (source predicate start : Expr)

namespace Expr

/-- The number of look-ups in a value from the first optional one on. -/
def links : Expr → Nat
  | member e _ optional => if 0 < e.links then e.links + 1 else if optional then 1 else 0
  | invoke callee _ => callee.links
  | _ => 0

/-- Whether an expression is not there. -/
def isAbsent : Expr → Bool
  | absent => true
  | _ => false

mutual

/-- The number of nodes of an expression as they are read: a chain counts once for every look-up in it, what stands in two
places counts once, and branches in braces do not count. -/
def size : Expr → Nat
  | unary _ e => e.size + 1
  | chain e => e.size + e.links
  | binary _ l r | orElse l r => l.size + r.size + 1
  | ordered first rest => first.size + sizeOrdered rest - 1
  | cond c a b => c.size + a.size + b.size + 1
  | branches c a b => c.size + a.size + b.size
  | bind _ value body => value.size + body.size + 1
  | sequence first rest => first.size + sizeAll rest + 1
  | list items => sizeAll items + 1
  | map entries => sizeEntries entries + 1
  | member e key _ => e.size + key.size + 1
  | slice e lo hi => e.size + lo.size + hi.size + 1
  | absent => 0
  | call _ arguments => sizeAll arguments + 1
  | invoke callee arguments => callee.size + sizeAll arguments + 1
  | loop _ source predicate start =>
    source.size + predicate.size + start.size + if predicate.isAbsent then 1 else 2
  | _ => 1

/-- The number of nodes of expressions. -/
def sizeAll : List Expr → Nat
  | [] => 0
  | e :: es => e.size + sizeAll es

/-- The number of nodes of operands, with those of two operators for each. -/
def sizeOrdered : List (BinaryOp × Expr) → Nat
  | [] => 0
  | (_, e) :: rest => e.size + 2 + sizeOrdered rest

/-- The number of nodes of the entries of a map. -/
def sizeEntries : List (Expr × Expr) → Nat
  | [] => 0
  | (k, v) :: rest => k.size + v.size + 1 + sizeEntries rest

end

end Expr

end Literate.Filter
