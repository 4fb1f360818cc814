import Literate.Filter.Nature

/-!
# Natures of calls

What the functions of filters take, and the nature of what they give. Some functions have fixed natures, of which there
may be several to choose from; others ask for shapes, and what they give depends on what they are given.
-/

namespace Literate.Filter

open Nature

/-- The natures that a function takes, and the nature of what it gives; the first that fits is taken. -/
def signatures (f : String) : List (List Nature × Nature) :=
  match f with
  | "string" | "type" | "toJSON" => [([any], text)]
  | "trim" => [([text], text), ([text, text], text)]
  | "trimPrefix" | "trimSuffix" => [([text, text], text), ([text], text)]
  | "upper" | "lower" | "toBase64" | "fromBase64" => [([text], text)]
  | "split" | "splitAfter" => [([text, text], texts), ([text, text, int], texts)]
  | "replace" => [([text, text, text, int], text), ([text, text, text], text)]
  | "repeat" => [([text, int], text)]
  | "join" => [([texts, text], text), ([listOf any, text], text), ([listOf any], text), ([texts], text)]
  | "indexOf" | "lastIndexOf" => [([text, text], int)]
  | "hasPrefix" | "hasSuffix" => [([text, text], bool)]
  | "fromJSON" => [([text], any)]
  | "now" => [([], time), ([zone], time)]
  | "duration" => [([text], duration)]
  | "date" =>
    [([text], time), ([text, text], time), ([text, text, text], time), ([zone, text], time), ([zone, text, text], time),
     ([zone, text, text, text], time)]
  | "timezone" => [([text], zone)]
  | "sort" =>
    [([listOf any], listOf any), ([texts], listOf any), ([listOf any, text], listOf any), ([texts, text], listOf any)]
  | "bitnot" => [([int], int)]
  | "bitand" | "bitor" | "bitxor" | "bitnand" | "bitshl" | "bitshr" | "bitushr" => [([int, int], int)]
  | _ => []

/-- The shapes of numbers. -/
def numberShapes : List Shape := [.int, .byte, .long, .float]

/-- The nature of the largest, the smallest or the mean of values: that of the first of them, unless one of them is a list
or unknown. -/
def aggregate? (first : Nature) : List Nature → Option Nature
  | [] => some first
  | n :: ns =>
    if n.shape = .any ∨ n.shape = .list then some any
    else if n.shape ∈ numberShapes then aggregate? first ns
    else none

/-- The nature of what is found in a value by a function, or nothing if there is no such place. -/
def getNature? (base key : Nature) : Option Nature :=
  if base.isUnknown then some unknown
  else match base with
    | list _ item => if key.isInteger || key.isUnknown then some item else none
    | map sort item => if key.isUnknown || key.fits (if sort = .named then text else any) then some item else none
    | _ => none

/-- The nature of a call of a function that asks for shapes, given the natures of its arguments without those of their
items. -/
def shaped? (f : String) (ns : List Nature) : Option Nature :=
  let asks := fun (n : Nature) (shapes : List Shape) (result : Nature) =>
    if n.shape = .any ∨ n.shape ∈ shapes then some result else none
  match f, ns with
  | "len", [n] => asks n [.list, .map, .text] int
  | "abs", [n] => asks n numberShapes n
  | "ceil", [n] | "floor", [n] | "round", [n] | "float", [n] =>
    asks n (if f = "float" then .text :: numberShapes else numberShapes) float
  | "int", [n] => asks n (.text :: numberShapes) int
  | "max", n :: ns | "min", n :: ns | "mean", n :: ns | "median", n :: ns => aggregate? n (n :: ns)
  | "first", [n] | "last", [n] => asks n [.list] (if n = any then any else n.item)
  | "take", [n, k] => if k.shape ∈ [.any, .int, .long] then asks n [.list] n else none
  | "keys", [n] | "values", [n] | "toPairs", [n] => asks n [.map] (listOf any)
  | "fromPairs", [n] => asks n [.list] (map .paired any)
  | "reverse", [n] | "uniq", [n] | "flatten", [n] => asks n [.list] (listOf any)
  | "concat", n :: ns => if (n :: ns).all fun n => n.shape = .any ∨ n.shape = .list then some (listOf any) else none
  | _, _ => none

/-- The nature of a call, if the function takes arguments of such natures. -/
def callNature? (f : String) (ns : List Nature) : Option Nature :=
  match f, ns with
  | "get", [base, key] => getNature? base key
  | _, _ =>
    match signatures f with
    | [] => shaped? f (ns.map outer)
    | choices => (choices.find? fun s => accepts s.1 ns).map (·.2)

/-- The nature of a loop, given those of the list and of what is asked of every element. -/
def loopNature? (f : Loop) (source predicate : Nature) : Option Nature :=
  let asked := fun (n : Nature) => if predicate = bool || predicate.isUnknown then some n else none
  let item := if source.isUnknown then unknown else source.item
  if predicate = nil then none
  else match f with
    | .map => some (listOf predicate)
    | .sum | .reduce => some predicate
    | .sortBy => some source
    | .groupBy => some (map .grouped (listOf item))
    | .filter => asked (listOf (if source.isUnknown then any else item))
    | .find | .findLast => asked item
    | .findIndex | .findLastIndex | .count => asked int
    | .all | .any | .none | .one => asked bool

/-- What is known of an element besides its value: its place, and what a reduction came to before it. -/
def pointerNatures : Loop → List (String × Nature)
  | .map => [("index", int)]
  | .reduce => [("index", int), ("acc", unknown)]
  | _ => []

end Literate.Filter
