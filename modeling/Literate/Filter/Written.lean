import Literate.Filter.Json
import Literate.Filter.Term
import Literate.Filter.Token
import Literate.Text.Quoted

/-!
# Filters as text

How a checked filter is written: with the parentheses that the precedence of its operators asks for, and with lists of
constants as JSON. Two sources of elements that are written alike are taken for one.
-/

namespace Literate.Filter

open Text

/-- Whether a text can be written as a name. -/
def isName (t : Text) : Bool :=
  match chars t with
  | [] => false
  | c :: cs => Token.isWordChar c && !Unicode.isDigit c && cs.all Token.isWordChar

namespace Value

/-- A constant that stands in a list of constants. -/
def inConstant : Value → Text
  | float x => (jsonNumber? x).getD []
  | text t => Json.quote Json.listing t
  | v => v.display

/-- A constant as it is written. -/
def written : Value → Text
  | nil => "nil"
  | text t => Text.quote t
  | list _ _ vs => "[" ++ join "," (vs.map inConstant) ++ "]"
  | v => v.display

end Value

/-- A pointer as it is written. -/
def Pointer.written : Pointer → Text
  | element => "#"
  | index => "#index"
  | reduced => "#acc"

/-- A text between parentheses, where they are needed. -/
def wrapped (needed : Bool) (t : Text) : Text := if needed then "(" ++ t ++ ")" else t

/-- A set of constants as it is written. -/
def writtenSet (keys : List Text) : Text :=
  "\x7b" ++ join "," ((keys.eraseDups.mergeSort fun s t => !Value.textLess t s).map fun k => k ++ ":\x7b\x7d") ++ "\x7d"

namespace Term

/-- The operator between two operands that a term has. -/
def operator? : Term → Option BinaryOp
  | binary op _ _ => some op
  | equal _ negated _ _ => some (if negated then .ne else .eq)
  | within .. | amongInts .. | amongTexts .. => some .within
  | _ => none

/-- Whether a left operand needs parentheses. -/
def wrapsLeft (op : BinaryOp) : Term → Bool
  | unary u _ => u.precedence < op.precedence
  | cond .. => true
  | l => l.operator?.any fun o =>
    o.precedence < op.precedence || (o.precedence == op.precedence && o.precedence == 100) || o == .coalesce ||
      (o.isLogical && o != op)

/-- Whether a right operand needs parentheses. -/
def wrapsRight (op : BinaryOp) : Term → Bool
  | cond .. => true
  | r => r.operator?.any fun o =>
    o.precedence < op.precedence || (o.precedence == op.precedence && o.precedence != 100) || (o.isLogical && o != op)

/-- Whether the operand after an operator needs parentheses. -/
def wrapsOperand (op : UnaryOp) : Term → Bool
  | cond .. => true
  | e => e.operator?.any fun o => o.precedence < op.precedence

/-- Whether a term is a condition with two branches. -/
def isCond : Term → Bool
  | cond .. => true
  | _ => false

/-- Whether a term is a pointer. -/
def isPointer : Term → Bool
  | pointer _ => true
  | _ => false

/-- Whether a term is given. -/
def isGiven : Term → Bool
  | absent => false
  | _ => true

/-- Two operands and their operator. -/
def writtenBinary (op : BinaryOp) (l r : Term) (left right : Text) : Text :=
  if op = .range then left ++ ".." ++ right
  else wrapped (wrapsLeft op l) left ++ " " ++ ofString op.sign ++ " " ++ wrapped (wrapsRight op r) right

/-- A look-up in a value, whose base and key are written. -/
def writtenMember (e : Term) (optional : Bool) (base key : Text) (name : Option Text) : Text :=
  match name.filter isName with
  | some x => if optional then base ++ "?." ++ x else if e.isPointer then "." ++ x else base ++ "." ++ x
  | none => base ++ (if optional then "?.[" else "[") ++ key ++ "]"

/-- A call. -/
def writtenCall (name : Text) (arguments : List Text) : Text := name ++ "(" ++ join ", " arguments ++ ")"

mutual

/-- A term as it is written. What becomes of selected elements is not. -/
def written : Term → Text
  | const v => v.written
  | loose x => (Value.float x).written
  | name x => ofString x
  | entry => "$env"
  | pointer p => p.written
  | unary op e => ofString op.sign ++ onlyIf (op = .not true) " " ++ wrapped (wrapsOperand op e) e.written
  | equal _ negated l r =>
    writtenBinary (if negated then .ne else .eq) l r l.written r.written
  | binary op l r => writtenBinary op l r l.written r.written
  | within _ l r => writtenBinary .within l r l.written r.written
  | amongInts e ns =>
    writtenBinary .within e .absent e.written (writtenSet (ns.map fun n => "\"" ++ ofInt n ++ "\""))
  | amongTexts e ts => writtenBinary .within e .absent e.written (writtenSet (ts.map (Json.quote Json.listing)))
  | cond c a b =>
    wrapped c.isCond c.written ++ " ? " ++ wrapped a.isCond a.written ++ " : " ++ wrapped b.isCond b.written
  | bind x value body => "let " ++ ofString x ++ " = " ++ value.written ++ "; " ++ body.written
  | andThen a b => a.written ++ "; " ++ b.written
  | also p q => p.written ++ " && " ++ q.written
  | list items => "[" ++ join ", " (writtenAll items) ++ "]"
  | map entries => "\x7b" ++ join ", " (writtenEntries entries) ++ "\x7d"
  | member e key optional =>
    writtenMember e optional (wrapped e.operator?.isSome e.written) key.written key.text?
  | method e x optional =>
    writtenMember e optional (wrapped e.operator?.isSome e.written) (Text.quote (ofString x)) (some (ofString x))
  | chain e => e.written
  | slice e lo hi => wrapped e.operator?.isSome e.written ++ "[" ++ lo.written ++ ":" ++ hi.written ++ "]"
  | absent => []
  | call f arguments => writtenCall (ofString f) (writtenAll arguments)
  | invoke callee arguments => writtenCall callee.written (writtenAll arguments)
  | loop f source predicate =>
    writtenCall (ofString f.name) (source.written :: if predicate.isGiven then [predicate.written] else [])
  | select source predicate _ => writtenCall "filter" [source.written, predicate.written]
  | search last _ source predicate _ =>
    writtenCall (if last then "findLast" else "find") [source.written, predicate.written]
  | sortBy source key order =>
    writtenCall "sortBy" (source.written :: key.written :: if order.isGiven then [order.written] else [])
  | reduce source step start =>
    writtenCall "reduce" (source.written :: step.written :: if start.isGiven then [start.written] else [])

/-- Terms as they are written. -/
def writtenAll : List Term → List Text
  | [] => []
  | e :: es => e.written :: writtenAll es

/-- The entries of a map as they are written. -/
def writtenEntries : List (Term × Term) → List Text
  | [] => []
  | (k, v) :: es =>
    let key := match k.text? with
      | some t => if isName t then t else Text.quote t
      | none => wrapped true k.written
    (key ++ ": " ++ v.written) :: writtenEntries es

end

end Term

end Literate.Filter
