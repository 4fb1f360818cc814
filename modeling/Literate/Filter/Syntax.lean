import Literate.Decimal
import Literate.Filter.Expr
import Literate.Filter.Token
import Literate.Word

/-!
# Reading filters

Expressions are read by precedence: pipes, `or`, `and`, comparisons, ranges, sums, products, powers, and `??`, which binds
tightest. `parse?` reads a whole filter.
-/

namespace Literate.Filter

open Text

/-! ## Literals -/

/-- The value of digits in a base. -/
def natOf (base : Nat) (cs : List Char) : Option Nat :=
  if cs = [] then none
  else cs.foldlM (fun n c => (Token.digit? base c).map fun d => n * base + d) 0

/-- An integer literal, if it fits in 64 bits. -/
def intLiteral? (base : Nat) (cs : List Char) : Option Expr :=
  (natOf base cs).bind fun n => if n < Word.half then some (.int n) else none

/-- The number that digits with a point and an exponent stand for, if it is finite. -/
def decimal? (cs : List Char) : Option Float := do
  let mantissa := cs.takeWhile fun c => c != 'e' && c != 'E'
  let exponent : Int ← match cs.drop mantissa.length with
    | [] => some 0
    | _ :: '-' :: ds => (natOf 10 ds).map fun n => -(n : Int)
    | _ :: '+' :: ds => (natOf 10 ds).map fun n => (n : Int)
    | _ :: ds => (natOf 10 ds).map fun n => (n : Int)
  let whole := mantissa.takeWhile (· ≠ '.')
  let fraction := (mantissa.drop whole.length).drop 1
  let digits ← natOf 10 (whole ++ fraction)
  let x := Decimal.toFloat digits (exponent - fraction.length)
  if x.isFinite then some x else none

/-- The value of a number token. -/
def literal? (cs : List Char) : Option Expr :=
  let cs := cs.filter (· ≠ '_')
  match cs with
  | '0' :: 'x' :: ds => intLiteral? 16 ds
  | '0' :: 'X' :: ds => intLiteral? 16 ds
  | _ =>
    if cs.any fun c => c == '.' || c == 'e' || c == 'E' then (decimal? cs).map .float
    else match cs with
      | '0' :: 'b' :: ds => intLiteral? 2 ds
      | '0' :: 'B' :: ds => intLiteral? 2 ds
      | '0' :: 'o' :: ds => intLiteral? 8 ds
      | '0' :: 'O' :: ds => intLiteral? 8 ds
      | _ => intLiteral? 10 cs

/-! ## Operators -/

/-- The operators between two operands. -/
def binaryOps : List BinaryOp :=
  [.or true, .or false, .and true, .and false, .eq, .ne, .lt, .gt, .ge, .le, .within, .matching, .containing, .starting,
   .ending, .range, .add, .sub, .mul, .div, .mod, .pow false, .pow true, .coalesce]

/-- The operator between two operands that a token is. -/
def binaryOp? (sign : String) : Option BinaryOp := binaryOps.find? fun op => op.sign = sign

/-- The operator before its operand that a token is. -/
def unaryOp? (sign : String) : Option UnaryOp :=
  [UnaryOp.not true, .not false, .minus, .plus].find? fun op => op.sign = sign

/-- The operator that a token after `not` is; it may stand in quotes. -/
def negatedOp? : Token → Option BinaryOp
  | .op t => binaryOp? t
  | .text t => (toString? t).bind binaryOp?
  | _ => none

/-- Whether an operator can be chained, as in `1 < x < 3`. -/
def BinaryOp.isOrdering (op : BinaryOp) : Bool := op ∈ [lt, gt, le, ge]

/-- Whether `not` can stand before an operator. -/
def BinaryOp.isNegatable (op : BinaryOp) : Bool := op ∈ [within, matching, containing, starting, ending]

/-- The least precedence of the operators in the operand after an operator: only powers are grouped from the right. -/
def BinaryOp.leastAfter (op : BinaryOp) : Nat :=
  match op with
  | pow _ => op.precedence
  | _ => op.precedence + 1

/-- The functions that look at every element of a list. -/
def allLoops : List Loop :=
  [.all, .none, .any, .one, .filter, .map, .count, .sum, .find, .findIndex, .findLast, .findLastIndex, .groupBy, .sortBy,
   .reduce]

/-- The function that looks at every element of a list and has a name. -/
def loop? (x : String) : Option Loop := allLoops.find? fun f => f.name = x

/-- The names of the other functions. -/
def functions : List String :=
  ["len", "type", "abs", "ceil", "floor", "round", "int", "float", "string", "trim", "trimPrefix", "trimSuffix", "upper",
   "lower", "split", "splitAfter", "replace", "repeat", "join", "indexOf", "lastIndexOf", "hasPrefix", "hasSuffix", "max",
   "min", "mean", "median", "toJSON", "fromJSON", "toBase64", "fromBase64", "now", "duration", "date", "timezone",
   "first", "last", "get", "take", "keys", "values", "toPairs", "fromPairs", "reverse", "uniq", "concat", "flatten",
   "sort", "bitand", "bitor", "bitxor", "bitnand", "bitnot", "bitshl", "bitshr", "bitushr"]

/-- Whether a name is that of a function. -/
def isFunction (x : String) : Bool := (loop? x).isSome || functions.contains x

/-! ## Reading -/

/-- An expression with the tokens that follow it. -/
abbrev Read := Option (Expr × List Token)

/-- The tokens after one that has to stand here. -/
def expect? (t : Token) : List Token → Option (List Token)
  | [] => none
  | u :: rest => if u = t then some rest else none

/-- Whether the tokens begin with a given one. -/
def begins (t : Token) (ts : List Token) : Bool := ts.head? = some t

/-- The name that a token after a dot is. -/
def fieldName? : Token → Option String
  | .name t => some t
  | .op t => if t ∈ Token.wordOperators then some t else none
  | _ => none

/-- The key that a token of a map is. -/
def keyText? : Token → Option Text
  | .name t => some (ofString t)
  | .number ds => some (ofChars ds)
  | .text t => some t
  | _ => none

/-- A look-up by a name: it joins the chain that a value ends, and an optional one begins a chain. -/
def lookup (e : Expr) (optional : Bool) (found : Expr → Expr) : Expr :=
  match e with
  | .chain e => .chain (found e)
  | e => if optional then .chain (found e) else found e

mutual

/-- Expressions separated by semicolons. `fuel` bounds the depth, and `inside` says that an element is at hand. -/
def sequence? (fuel : Nat) (inside : Bool) (ts : List Token) : Read :=
  match fuel with
  | 0 => none
  | fuel + 1 => do
    let (e, ts) ← expression? fuel inside 0 ts
    let (rest, ts) ← following? fuel inside ts
    return (if rest.isEmpty then e else .sequence e rest, ts)

/-- The expressions after semicolons. -/
def following? (fuel : Nat) (inside : Bool) (ts : List Token) : Option (List Expr × List Token) :=
  match fuel with
  | 0 => none
  | fuel + 1 =>
    if begins (.op ";") ts then
      match ts.tail with
      | [] => some ([], [])
      | ts => do
        let (e, ts) ← expression? fuel inside 0 ts
        let (rest, ts) ← following? fuel inside ts
        return (e :: rest, ts)
    else some ([], ts)

/-- An expression whose operators have at least the given precedence. -/
def expression? (fuel : Nat) (inside : Bool) (least : Nat) (ts : List Token) : Read :=
  match fuel with
  | 0 => none
  | fuel + 1 =>
    if least = 0 ∧ begins (.op "let") ts then
      match ts.tail with
      | .name x :: ts => do
        let ts ← expect? (.op "=") ts
        let (v, ts) ← expression? fuel inside 0 ts
        let ts ← expect? (.op ";") ts
        let (body, ts) ← sequence? fuel inside ts
        return (.bind x v body, ts)
      | _ => none
    else if least = 0 ∧ begins (.op "if") ts then branches? fuel inside ts
    else do
      let (e, ts) ← primary? fuel inside ts
      let (e, ts) ← operators? fuel inside least none e ts
      if least = 0 then conditional? fuel inside e ts else return (e, ts)

/-- An expression of the form `if c { a } else { b }`. -/
def branches? (fuel : Nat) (inside : Bool) (ts : List Token) : Read :=
  match fuel with
  | 0 => none
  | fuel + 1 => do
    let (c, ts) ← expression? fuel inside 0 ts.tail
    let (a, ts) ← sequence? fuel inside (← expect? (.bracket '{') ts)
    let ts ← expect? (.op "else") (← expect? (.bracket '}') ts)
    if begins (.op "if") ts then
      let (b, ts) ← branches? fuel inside ts
      return (.branches c a b, ts)
    else
      let (b, ts) ← sequence? fuel inside (← expect? (.bracket '{') ts)
      return (.branches c a b, ← expect? (.bracket '}') ts)

/-- The operators after an operand, and their other operands. `previous` is the operator before them. -/
def operators? (fuel : Nat) (inside : Bool) (least : Nat) (previous : Option BinaryOp) (l : Expr) (ts : List Token) :
    Read :=
  match fuel with
  | 0 => none
  | fuel + 1 =>
    match ts with
    | .op "not" :: t :: rest =>
      match negatedOp? t with
      | some op =>
        if op.isNegatable then
          if op.precedence < least then some (l, ts)
          else if previous = some .coalesce then none
          else do
            let (r, ts) ← expression? fuel inside (op.precedence + 1) rest
            operators? fuel inside least (some op) (.unary (.not true) (.binary op l r)) ts
        else none
      | none => none
    | .op "not" :: _ => none
    | .op "|" :: rest =>
      if 0 < least then some (l, ts)
      else match rest with
        | .name f :: ts => do
          let (e, ts) ← call? fuel inside f [l] ts
          operators? fuel inside least none e ts
        | _ => none
    | .op t :: rest =>
      match binaryOp? t with
      | none => some (l, ts)
      | some op =>
        if op.precedence < least then some (l, ts)
        else if previous = some .coalesce ∧ op ≠ .coalesce then none
        else if op.isOrdering then do
          let (operands, ts) ← orderings? fuel inside op rest
          operators? fuel inside least (some op) (.ordered l operands) ts
        else do
          let (r, ts) ← expression? fuel inside op.leastAfter rest
          operators? fuel inside least (some op) (.binary op l r) ts
    | _ => some (l, ts)

/-- The operand after an ordering, and the orderings after it with theirs. -/
def orderings? (fuel : Nat) (inside : Bool) (op : BinaryOp) (ts : List Token) :
    Option (List (BinaryOp × Expr) × List Token) :=
  match fuel with
  | 0 => none
  | fuel + 1 => do
    let (r, ts) ← expression? fuel inside op.leastAfter ts
    match ts with
    | .op t :: rest =>
      match (binaryOp? t).filter (·.isOrdering) with
      | some next =>
        let (operands, ts) ← orderings? fuel inside next rest
        return ((op, r) :: operands, ts)
      | none => return ([(op, r)], ts)
    | _ => return ([(op, r)], ts)

/-- The branches after a condition. -/
def conditional? (fuel : Nat) (inside : Bool) (c : Expr) (ts : List Token) : Read :=
  match fuel with
  | 0 => none
  | fuel + 1 =>
    if begins (.op "?") ts then
      if begins (.op ":") ts.tail then do
        let (b, ts) ← expression? fuel inside 0 ts.tail.tail
        conditional? fuel inside (.orElse c b) ts
      else do
        let (a, ts) ← expression? fuel inside 0 ts.tail
        let (b, ts) ← expression? fuel inside 0 (← expect? (.op ":") ts)
        conditional? fuel inside (.cond c a b) ts
    else some (c, ts)

/-- An operand, with what is looked up in it. -/
def primary? (fuel : Nat) (inside : Bool) (ts : List Token) : Read :=
  match fuel with
  | 0 => none
  | fuel + 1 =>
    match ts with
    | [] => none
    | .op t :: rest =>
      match unaryOp? t with
      | some op => do
        let (e, ts) ← expression? fuel inside op.precedence rest
        lookups? fuel inside (.unary op e) ts
      | none =>
        if inside ∧ t = "#" then
          match rest with
          | .name x :: ts => lookups? fuel inside (.pointer x) ts
          | ts => lookups? fuel inside (.pointer "") ts
        else if inside ∧ t = "." then lookups? fuel inside (.pointer "") ts
        else if t = "::" then
          match rest with
          | .name f :: ts => do
            let (e, ts) ← call? fuel inside f [] ts
            lookups? fuel inside e ts
          | _ => none
        else none
    | .bracket c :: rest =>
      if c = '(' then do
        let (e, ts) ← sequence? fuel inside rest
        lookups? fuel inside e (← expect? (.bracket ')') ts)
      else if c = '[' then do
        let (items, ts) ← items? fuel inside ']' true rest
        lookups? fuel inside (.list items) ts
      else if c = '{' then do
        let (entries, ts) ← entries? fuel inside true rest
        lookups? fuel inside (.map entries) ts
      else none
    | .name x :: rest =>
      if x = "true" then some (.bool true, rest)
      else if x = "false" then some (.bool false, rest)
      else if x = "nil" then some (.nil, rest)
      else if begins (.bracket '(') rest then do
        let (e, ts) ← call? fuel inside x [] rest
        lookups? fuel inside e ts
      else lookups? fuel inside (.name x) rest
    | .number ds :: rest => (literal? ds).map fun e => (e, rest)
    | .text t :: rest => lookups? fuel inside (.text t) rest

/-- Items separated by commas up to a closing bracket, and what follows it. -/
def items? (fuel : Nat) (inside : Bool) (close : Char) (start : Bool) (ts : List Token) :
    Option (List Expr × List Token) :=
  match fuel with
  | 0 => none
  | fuel + 1 =>
    if begins (.bracket close) ts then some ([], ts.tail)
    else do
      let ts ← if start then some ts else expect? (.op ",") ts
      if begins (.bracket close) ts then return ([], ts.tail)
      else
        let (e, ts) ← expression? fuel inside 0 ts
        let (es, ts) ← items? fuel inside close false ts
        return (e :: es, ts)

/-- The entries of a map up to its closing brace, and what follows it. A key is a name, a number or a text as it is
written, or an expression that begins with a parenthesis. -/
def entries? (fuel : Nat) (inside : Bool) (start : Bool) (ts : List Token) :
    Option (List (Expr × Expr) × List Token) :=
  match fuel with
  | 0 => none
  | fuel + 1 =>
    if begins (.bracket '}') ts then some ([], ts.tail)
    else do
      let ts ← if start then some ts else expect? (.op ",") ts
      if begins (.bracket '}') ts then return ([], ts.tail)
      else
        let (key, ts) ←
          if begins (.bracket '(') ts then expression? fuel inside 0 ts
          else (ts.head?.bind keyText?).map fun t => (.text t, ts.tail)
        let (value, ts) ← expression? fuel inside 0 (← expect? (.op ":") ts)
        let (rest, ts) ← entries? fuel inside false ts
        return ((key, value) :: rest, ts)

/-- A call of a function, of which some arguments may be given already. -/
def call? (fuel : Nat) (inside : Bool) (f : String) (given : List Expr) (ts : List Token) : Read :=
  match fuel with
  | 0 => none
  | fuel + 1 => do
    let ts ← expect? (.bracket '(') ts
    match loop? f with
    | some loop =>
      let (source, ts, more) ← match given with
        | e :: _ => some (e, ts, true)
        | [] => (expression? fuel inside 0 ts).map fun (e, ts) => (e, ts, false)
      if (loop = .count ∨ loop = .sum) ∧ begins (.bracket ')') ts then
        return (.loop loop source .absent .absent, ts.tail)
      else
        let ts ← if more then some ts else expect? (.op ",") ts
        let (p, ts) ← predicate? fuel ts
        let (start, ts) ←
          if (loop = .reduce ∨ loop = .sortBy) ∧ !begins (.bracket ')') ts then do
            expression? fuel inside 0 (← expect? (.op ",") ts)
          else some (.absent, ts)
        let ts := if begins (.op ",") ts then ts.tail else ts
        return (.loop loop source p start, ← expect? (.bracket ')') ts)
    | none =>
      let (arguments, ts) ← items? fuel inside ')' true ts
      let arguments := given ++ arguments
      return (if functions.contains f then .call f arguments else .invoke (.name f) arguments, ts)

/-- What is asked of every element of a list. -/
def predicate? (fuel : Nat) (ts : List Token) : Read :=
  match fuel with
  | 0 => none
  | fuel + 1 =>
    if begins (.bracket '{') ts then do
      let (e, ts) ← sequence? fuel true ts.tail
      return (e, ← expect? (.bracket '}') ts)
    else do
      let (e, ts) ← expression? fuel true 0 ts
      if begins (.op ";") ts then none else return (e, ts)

/-- What is looked up in a value: fields, methods, elements and slices. -/
def lookups? (fuel : Nat) (inside : Bool) (e : Expr) (ts : List Token) : Read :=
  match fuel with
  | 0 => none
  | fuel + 1 =>
    match ts with
    | .op t :: rest =>
      if t = "." ∨ t = "?." then
        let optional := t == "?."
        if optional ∧ begins (.bracket '[') rest then element? fuel inside e true rest.tail
        else match rest with
          | [] => none
          | t :: ts =>
            match fieldName? t with
            | none => none
            | some x =>
              let key := Expr.text (ofString x)
              if begins (.bracket '(') ts then do
                let (arguments, ts) ← items? fuel inside ')' true ts.tail
                lookups? fuel inside (lookup e optional fun e => .invoke (.member e key optional) arguments) ts
              else lookups? fuel inside (lookup e optional fun e => .member e key optional) ts
      else some (e, ts)
    | .bracket c :: rest => if c = '[' then element? fuel inside e false rest else some (e, ts)
    | _ => some (e, ts)

/-- An element or a slice after its opening bracket. -/
def element? (fuel : Nat) (inside : Bool) (e : Expr) (optional : Bool) (ts : List Token) : Read :=
  match fuel with
  | 0 => none
  | fuel + 1 => do
    let (lo, ts) ← if begins (.op ":") ts then some (.absent, ts) else expression? fuel inside 0 ts
    if begins (.op ":") ts then
      let ts := ts.tail
      let (hi, ts) ← if begins (.bracket ']') ts then some (.absent, ts) else expression? fuel inside 0 ts
      lookups? fuel inside (.slice e lo hi) (← expect? (.bracket ']') ts)
    else
      let ts ← expect? (.bracket ']') ts
      let found := Expr.member e lo optional
      lookups? fuel inside (if optional then .chain found else found) ts

end

/-- The largest number of nodes that a filter may have. -/
def maxSize : Nat := 10000

/-- Reads a whole filter. -/
def parse? (t : Text) : Option Expr := do
  let tokens ← Token.scan t
  match sequence? (8 * tokens.length + 16) false tokens with
  | some (e, []) => if e.size ≤ maxSize then some e else none
  | _ => none

end Literate.Filter
