import Literate.Decimal.Reader
import Literate.Filter.Calculation
import Literate.Filter.Json
import Literate.Filter.Method
import Literate.Quicksort
import Literate.Text.Base64
import Literate.Text.Case
import Literate.Text.Replace
import Literate.Text.Space

/-!
# Functions of filters

What calls of functions come to. A function that makes something large says how large it is; `Made` is a value with that
size.
-/

namespace Literate.Filter

open Text Value

/-- A value, and the number of things that were made for it. -/
abbrev Made := Value × Nat

/-! ## Numbers -/

/-- The integer that decimal digits stand for, after an optional sign. -/
def readInt? (t : Text) : Option Int :=
  let negative := startsWith t "-"
  let ds := if negative ∨ startsWith t "+" then t.drop 1 else t
  (digits? 10 ds).bind fun n => Word.ofInt? (if negative then -(n : Int) else n)

/-- An operation on the bits of two integers. -/
def bits (op : UInt64 → UInt64 → UInt64) (m n : Int) : Value :=
  .int (op (UInt64.ofInt m) (UInt64.ofInt n)).toInt64.toInt

/-- An integer with its bits moved up. -/
def shiftUp (m : Int) (n : Nat) : Value := if 64 ≤ n then .int 0 else .int (Word.wrap (m * Nat.pow 2 n))

/-- An integer with its bits moved down, and copies of its sign above them. -/
def shiftDown (m : Int) (n : Nat) : Value :=
  if 64 ≤ n then .int (if m < 0 then -1 else 0) else .int (m.fdiv (Nat.pow 2 n))

/-- An integer with its bits moved down, and zeros above them. -/
def shiftIn (m : Int) (n : Nat) : Value :=
  if 64 ≤ n then .int 0 else .int (Word.wrap ((m % (Word.count : Int)) / (Nat.pow 2 n : Nat)))

/-- A shift by a number of bits that is not negative. -/
def shift? (op : Int → Nat → Value) (a b : Value) : Option Value := do
  let m ← a.integer?
  let n ← b.integer?
  if n < 0 then none else return op m n.toNat

/-- What values come to, unless there are lists in them that are too deep. -/
def ofShallow? (f : List Value → Option Value) (args : List Value) : Option Value :=
  if args.any fun v => maxDepth < v.depth false then none else f args

/-- The value of a call that works on numbers. -/
def numberCall? (f : String) (args : List Value) : Option Value :=
  let onBits := fun (op : UInt64 → UInt64 → UInt64) (a b : Value) => do return bits op (← a.integer?) (← b.integer?)
  match f, args with
  | "abs", [.float x] => some (.float (if x < 0 then -x else x))
  | "abs", [.byte n] => some (.byte n)
  | "abs", [.int n] => some (.int (if n < 0 then Word.wrap (-n) else n))
  | "abs", [.long n] => some (.long (if n < 0 then Word.wrap (-n) else n))
  | "ceil", [v] => v.float?.map fun x => .float x.ceil
  | "floor", [v] => v.float?.map fun x => .float x.floor
  | "round", [v] => v.float?.map fun x => .float x.round
  | "int", [.text t] => (readInt? t).map .int
  | "int", [v] => v.count?.map .int
  | "float", [.text t] => (Decimal.read? t).map .float
  | "float", [v] => v.float?.map .float
  | "max", args => ofShallow? (extreme? less? (args.length = 1) none) args
  | "min", args => ofShallow? (extreme? (fun a b => b.less? a) (args.length = 1) none) args
  | "mean", args => ofShallow? mean? args
  | "median", args => ofShallow? median? args
  | "bitand", [a, b] => onBits (· &&& ·) a b
  | "bitor", [a, b] => onBits (· ||| ·) a b
  | "bitxor", [a, b] => onBits (· ^^^ ·) a b
  | "bitnand", [a, b] => onBits (fun x y => x &&& ~~~y) a b
  | "bitnot", [a] => a.integer?.map fun n => .int (-n - 1)
  | "bitshl", [a, b] => shift? shiftUp a b
  | "bitshr", [a, b] => shift? shiftDown a b
  | "bitushr", [a, b] => shift? shiftIn a b
  | _, _ => none

/-! ## Texts -/

/-- The text without the characters of a set at its ends. -/
def trimSet (t cutset : Text) : Text :=
  let p := fun (r : Symbol) => (chars cutset).contains r.char
  ofSymbols (((symbols t).dropWhile p).reverse.dropWhile p).reverse

/-- The pieces of a text, of which there may be a largest number. -/
def pieces? (cut : Text → Text → Option Int → List Text) (t sep : Text) (limit : Option Value) : Option Value := do
  let n ← match limit with
    | none => some none
    | some v => v.place?.map some
  return .list .texts (n ≠ some 0) ((cut t sep n).map .text)

/-- A place in a text, or minus one. -/
def place (found : Option Nat) : Value := .int ((found.map fun n => (n : Int)).getD (-1))

/-- The texts of a list with a text between them. -/
def join? (v : Value) (glue : Text) : Option Value :=
  match v with
  | .list .texts _ vs | .list .plain _ vs => (vs.mapM Value.text?).map fun ts => .text (join glue ts)
  | _ => none

/-- The samples of dates, in the order in which they are tried. -/
def dateLayouts : List Text :=
  ["2006-01-02", "15:04:05", "2006-01-02 15:04:05", Log.rfc3339, "02 Jan 06 15:04 MST", "Monday, 02-Jan-06 15:04:05 MST",
   "Mon, 02 Jan 2006 15:04:05 MST"]

/-- A moment by its date, in a layout or in one of those that are tried. -/
def date? (missing home : Log.Zone) (t : Text) (layouts : List Text) : Option Value :=
  (layouts.findSome? fun l => (Log.Layout.parse l).read? missing home t).map .time

/-- The zone with a name; none but these are known. -/
def zone? (name : Text) : Option Log.Zone :=
  if name = [] then some .utc else [Log.Zone.utc, .host].find? fun z => z.name = name

/-- The value of a call that makes a moment or a zone. -/
def timeCall? (now : Log.Instant) (f : String) (args : List Value) : Option Value :=
  match f, args with
  | "now", [] => some (.time now)
  | "now", [.zone z true] => some (.time { now with zone := z })
  | "timezone", [.text name] => (zone? name).map fun z => .zone z true
  | "duration", [.text t] => (Log.readDuration? t).map .duration
  | "date", [.text t] => date? .utc .host t dateLayouts
  | "date", [.text t, .text layout] => date? .utc .host t [layout]
  | "date in", [.zone z true, .text t] => date? z z t dateLayouts
  | "date in", [.zone z true, .text t, .text layout] => date? z z t [layout]
  | "date", [.text t, .text layout, .text name] | "date in", [.zone _ true, .text t, .text layout, .text name] =>
    (zone? name).bind fun z => date? z z t [layout]
  | _, _ => none

/-- The value of a call that works on texts. -/
def textCall? (f : String) (args : List Value) : Option Value :=
  match f, args with
  | "upper", [.text t] => some (.text (toUpper t))
  | "lower", [.text t] => some (.text (toLower t))
  | "trim", [.text t] => some (.text (trimSpace t))
  | "trim", [.text t, .text cutset] => some (.text (trimSet t cutset))
  | "trimPrefix", [.text t] => some (.text ((dropStart? t " ").getD t))
  | "trimPrefix", [.text t, .text p] => some (.text ((dropStart? t p).getD t))
  | "trimSuffix", [.text t] => some (.text (if endsWith t " " then t.dropLast else t))
  | "trimSuffix", [.text t, .text p] => some (.text (if endsWith t p then t.take (t.length - p.length) else t))
  | "hasPrefix", [.text t, .text p] => some (.bool (startsWith t p))
  | "hasSuffix", [.text t, .text p] => some (.bool (endsWith t p))
  | "indexOf", [.text t, .text p] => some (place (indexOf? t p))
  | "lastIndexOf", [.text t, .text p] => some (place (lastIndexOf? t p))
  | "split", [.text t, .text s] => pieces? splitOn t s none
  | "split", [.text t, .text s, n] => pieces? splitOn t s (some n)
  | "splitAfter", [.text t, .text s] => pieces? splitAfter t s none
  | "splitAfter", [.text t, .text s, n] => pieces? splitAfter t s (some n)
  | "replace", [.text t, .text p, .text q] => some (.text (replace t p q none))
  | "replace", [.text t, .text p, .text q, n] => n.place?.map fun n => .text (replace t p q (some n))
  | "join", [v] => join? v []
  | "join", [v, .text glue] => join? v glue
  | "toBase64", [.text t] => some (.text (toBase64 t))
  | "fromBase64", [.text t] => (ofBase64? t).map .text
  | "fromJSON", [.text t] => ofJson? t
  | _, _ => none

/-! ## Lists and maps -/

/-- Whether an order is descending: there are two orders. -/
def descending? (order : Text) : Option Bool :=
  if order = ("desc" : Text) then some true else if order = ("asc" : Text) then some false else none

/-- The values of a list in ascending or descending order of their keys. Keys that are compared must be such that can be. -/
def sortBy? (descending : Bool) (items : List (Value × Value)) : Option (List Value) :=
  (Quicksort.sort? (fun a b => if descending then b.1.less? a.1 else a.1.less? b.1) items).map fun sorted =>
    sorted.map (·.2)

/-- A list in order. Pairs cannot be put in order: like what is no list, they come to a list that was never made. -/
def sort? (v : Value) (order : Text) : Option Made := do
  let descending ← descending? order
  match v with
  | .list .pairs .. | .list .pair .. => return (.list .plain false [], 0)
  | .list _ _ vs => return (.ofList (← sortBy? descending (vs.map fun v => (v, v))), vs.length)
  | _ => return (.list .plain false [], 0)

mutual

/-- A value, or the elements of a list and of the lists within it. -/
def flat : Value → List Value
  | .list _ _ vs => flatAll vs
  | v => [v]

/-- Values, with the elements of lists, and of lists within them, in place of the lists. -/
def flatAll : List Value → List Value
  | [] => []
  | v :: vs => flat v ++ flatAll vs

end

/-- The entries of a map in the order of their keys. -/
def entriesOf? : Value → Option (List (Value × Value))
  | .map _ es => some (sorted es)
  | _ => none

/-- The key and the value that a list of two is. -/
def pair? : Value → Option (Value × Value)
  | .list _ _ [k, v] => if k.isKey then some (k, v) else none
  | _ => none

/-- The value of a call that works on lists and maps. -/
def listCall? (f : String) (args : List Value) : Option Value :=
  match f, args with
  | "len", [.text t] => some (.int (symbols t).length)
  | "len", [.list _ _ vs] => some (.int vs.length)
  | "len", [.map _ es] => some (.int es.length)
  | "first", [v] => some ((v.fetch? (.int 0)).getD .nil)
  | "last", [v] => some ((v.fetch? (.int (-1))).getD .nil)
  | "get", [v, key] => v.get? key
  | "take", [.list .pair _ _, _] => none
  | "take", [.list sort made vs, n] => n.amount?.bind fun n =>
    if n < 0 then none else some (.list sort made (vs.take n.toNat))
  | "uniq", [.list _ _ vs] =>
    some (.ofList (vs.foldl (fun kept v => if kept.any fun u => v.same u then kept else v :: kept) []).reverse)
  | "keys", [v] => (entriesOf? v).map fun es => .ofList (es.map (·.1))
  | "values", [v] => (entriesOf? v).map fun es => .ofList (es.map (·.2))
  | "toPairs", [v] => (entriesOf? v).map fun es => .list .pairs true (es.map fun e => .list .pair true [e.1, e.2])
  | "fromPairs", [.list _ _ vs] =>
    (vs.mapM pair?).map fun es => .map .paired (es.foldl (fun m e => put m e.1 e.2) [])
  | _, _ => none

/-- The value of a call that makes a list or a text, and its size. -/
def makingCall? (f : String) (args : List Value) : Option Made :=
  match f, args with
  | "repeat", [.text t, n] => n.place?.bind fun n =>
    if n < 0 ∨ 1000000 < n ∨ 1000000 ≤ n.toNat * t.length then none
    else some (.text (copies n.toNat t), n.toNat * t.length)
  | "reverse", [.list _ _ vs] => some (.ofList vs.reverse, vs.length)
  | "flatten", [.list sort made vs] =>
    if maxDepth < (Value.list sort made vs).depth true then none
    else
      let all := flatAll vs
      some (.ofList all, all.length)
  | "concat", args => (args.mapM Value.items?).map fun vs =>
    let all := vs.flatten
    (.list .plain (!all.isEmpty) all, all.length)
  | "sort", [v] => sort? v "asc"
  | "sort", [v, .text order] => sort? v order
  | _, _ => none

/-! ## All functions -/

/-- Whether a function takes a handle as it is, and not what it leads to. -/
def takesHandles (f : String) : Bool := f == "now" || f == "date in"

/-- The value of a call at a moment, and the number of things that were made for it. -/
def callValue? (now : Log.Instant) (f : String) (args : List Value) : Option Made :=
  let args := if takesHandles f then args else args.map Value.plain
  match f, args with
  | "type", [v] => some (.text v.sortName, 0)
  | "string", [v] => some (.text v.display, 0)
  | "toJSON", [v] => (v.toJson? 0).map fun t => (.text t, 0)
  | _, _ =>
    match (((numberCall? f args).or (textCall? f args)).or (listCall? f args)).or (timeCall? now f args) with
    | some v => some (v, 0)
    | none => makingCall? f args

end Literate.Filter
