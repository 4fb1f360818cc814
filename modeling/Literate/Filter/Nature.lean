import Literate.Filter.Expr
import Literate.Filter.Value

/-!
# Natures of expressions

The nature of an expression is what is known of its value before it is evaluated. Of some values nothing is known, in two
ways: an `unknown` one has no nature at all, while `any` is the nature of values of every sort, and every other nature is
one of its cases.
-/

namespace Literate.Filter

/-- What is known of the value of an expression. -/
inductive Nature where
  | unknown
  | any
  | nil
  | bool
  | int
  | byte
  | long
  | float
  | text
  | duration
  | time
  | month
  | weekday
  | zone
  /-- What a zone is a handle of. -/
  | place
  /-- A list of a sort with items of a nature. -/
  | list (sort : ListSort) (item : Nature)
  /-- A map with values of a nature. -/
  | map (sort : MapSort) (item : Nature)
  /-- A function that every filter knows. -/
  | function (name : String)
  /-- What can be done with a value of a nature, given by a name. -/
  | method (owner : Nature) (name : String)
deriving DecidableEq, Repr

/-- The shape of values, which natures of several sorts share. -/
inductive Shape where
  | none
  | any
  | bool
  | int
  | byte
  | long
  | float
  | text
  | list
  | map
  | record
  | function
  | handle
deriving DecidableEq, Repr

namespace Nature

/-- The shape of the values of a nature. -/
def shape : Nature → Shape
  | unknown | nil => .none
  | any => .any
  | bool => .bool
  | int | month | weekday => .int
  | byte => .byte
  | long | duration => .long
  | float => .float
  | text => .text
  | time | place => .record
  | zone => .handle
  | list .. => .list
  | map .. => .map
  | function _ | method .. => .function

/-- Whether nothing is known of the value. -/
def isUnknown (n : Nature) : Bool := n = unknown || n = any

/-- Whether the value is an integer. -/
def isInteger (n : Nature) : Bool := n = int || n = byte || n = long

/-- Whether the value is a number. -/
def isNumber (n : Nature) : Bool := n.isInteger || n = float

/-- Whether the value is a list. -/
def isList (n : Nature) : Bool := n.shape = .list

/-- The nature of the items of a list or of the values of a map. -/
def item : Nature → Nature
  | list _ t | map _ t => t
  | _ => unknown

/-- A list of a filter with items of a nature. -/
abbrev listOf (n : Nature) : Nature := list .plain n

/-- A list of texts from outside of the filter. -/
abbrev texts : Nature := list .texts text

/-- A list of bytes. -/
abbrev bytes : Nature := list .bytes byte

/-- A map with names for keys. -/
abbrev names : Nature := map .named any

/-- A nature without what is known of the items of lists and the values of maps. -/
def outer : Nature → Nature
  | unknown => any
  | list sort item => if sort = .plain then listOf any else list sort item
  | map .grouped _ => map .grouped (listOf any)
  | map sort _ => map sort any
  | n => n

/-- The nature of a part of a value: of a part of what is not known, nothing is known. -/
def opened (n : Nature) : Nature := if n.isUnknown then unknown else n

/-- Whether values of two natures are of the same sort, whatever their items are. -/
def alike (m n : Nature) : Bool :=
  match m, n with
  | list a _, list b _ => a = b
  | map a _, map b _ => a = b
  | m, n => m = n

/-- Whether a value of the first nature can stand where one of the second is wanted. -/
def fits (m n : Nature) : Bool :=
  if m = nil then n.shape ∈ [.any, .list, .map, .function, .handle]
  else m ≠ unknown && n ≠ unknown && (n = any || m.alike n)

/-- Whether values of two natures can be compared. -/
def comparable (m n : Nature) : Bool :=
  m.isUnknown || n.isUnknown || m = nil || n = nil || (m.isNumber && n.isNumber) || m.shape = n.shape

/-- Whether a condition holds of two natures as far as they are known. -/
def both (p : Nature → Bool) (m n : Nature) : Bool :=
  (p m && p n) || (m.isUnknown && (n.isUnknown || p n)) || (n.isUnknown && p m)

/-- Whether one nature is unknown, and the other is unknown too or has a property. -/
def either (p : Nature → Bool) (m n : Nature) : Bool := (m.isUnknown && (n.isUnknown || p n)) || (n.isUnknown && p m)

/-- The nature of a sum of numbers. -/
def combined (m n : Nature) : Nature := if m = float || n = float then float else int

/-- The nature of one of two values. -/
def choice (m n : Nature) : Nature :=
  if m = nil then n
  else if n = nil then m
  else if m.fits n then
    if m.isList && n.isList && !(m.item.fits n.item && n.item.fits m.item) then listOf any else m
  else unknown

/-- The nature of a value, or of another if it is nothing. -/
def otherwise (m n : Nature) : Nature :=
  if m = nil then n else if n = nil then m else if n.fits m then n else unknown

/-- The nature of a list with items of the given natures, of which the last stands for all if they have the same shape. -/
def listOfAll (ns : List Nature) : Nature :=
  match ns.getLast? with
  | none => listOf unknown
  | some n => if (ns.zip ns.tail).all fun (a, b) => a.shape = b.shape then listOf n else listOf any

/-! ## Operators -/

/-- The nature of the difference of two values, unless there is none. -/
def minus? (m n : Nature) : Option Nature :=
  if m.isNumber && n.isNumber then some (combined m n)
  else if m = time && n = time then some duration
  else if m = time && n = duration then some time
  else if m = duration && n = duration then some duration
  else if either (fun k => k.isNumber || k = time || k = duration) m n then some unknown
  else none

/-- The nature of the product of two values, unless there is none. -/
def times? (m n : Nature) : Option Nature :=
  if m.isNumber && n.isNumber then some (combined m n)
  else if (m.isNumber || m = duration) && (n.isNumber || n = duration) then some duration
  else if either (fun k => k.isNumber || k = duration) m n then some unknown
  else none

/-- The nature of the sum of two values, unless there is none. -/
def plus? (m n : Nature) : Option Nature :=
  if m.isNumber && n.isNumber then some (combined m n)
  else if m = text && n = text then some text
  else if (m = time && n = duration) || (m = duration && n = time) then some time
  else if m = duration && n = duration then some duration
  else if either (fun k => k.isNumber || k = text || k = time || k = duration) m n then some unknown
  else none

/-- The nature of what a value is in, if it can be in there. -/
def within? (m n : Nature) : Option Nature :=
  if n = time ∨ n = place then if m = text || m.isUnknown then some bool else none
  else match n with
    | map sort _ => if m.isUnknown || m.fits (if sort = .named then text else any) then some bool else none
    | list _ item => if m.comparable item then some bool else none
    | n => if n.isUnknown || (m.isUnknown && n = text) then some bool else none

/-- The nature of what a handle leads to; any other nature is its own. -/
def plain (n : Nature) : Nature := if n = zone then place else n

/-- The nature of an operation on values of two natures, unless there is none. -/
def binary? (op : BinaryOp) (m n : Nature) : Option Nature :=
  let m := m.plain
  let n := n.plain
  let only := fun (ok : Bool) (result : Nature) => if ok then some result else none
  match op with
  | .eq | .ne => only (m.comparable n) bool
  | .or _ | .and _ => only (both (· = bool) m n) bool
  | .lt | .gt | .ge | .le =>
    only ((m.isNumber && n.isNumber) || (m = text && n = text) || (m = time && n = time) || (m = duration && n = duration)
      || either (fun k => k.isNumber || k = text || k = time || k = duration) m n) bool
  | .sub => minus? m n
  | .mul => times? m n
  | .div | .pow _ => only (both isNumber m n) float
  | .mod => only (both isInteger m n) int
  | .add => plus? m n
  | .within => within? m n
  | .matching | .containing | .starting | .ending => only (both (· = text) m n) bool
  | .range => only (both isInteger m n) (listOf int)
  | .coalesce => some (otherwise m n)

/-- The nature of an operation on a value of a nature, unless there is none. -/
def unary? (op : UnaryOp) (n : Nature) : Option Nature :=
  match op with
  | .not _ => if n = bool || n.isUnknown then some bool else none
  | .minus | .plus => if n.isNumber then some n else if n.isUnknown then some unknown else none

/-! ## Look-ups -/

/-- What can be done with a length of time: the natures of what it takes and what it gives. -/
def durationMethods : List (String × List Nature × Nature) :=
  [("Abs", [], duration), ("Hours", [], float), ("Microseconds", [], long), ("Milliseconds", [], long),
   ("Minutes", [], float), ("Nanoseconds", [], long), ("Round", [duration], duration), ("Seconds", [], float),
   ("String", [], text), ("Truncate", [duration], duration)]

/-- What can be done with a moment. -/
def timeMethods : List (String × List Nature × Nature) :=
  [("Add", [duration], time), ("AddDate", [int, int, int], time), ("After", [time], bool), ("AppendBinary", [bytes], bytes),
   ("AppendFormat", [bytes, text], bytes), ("AppendText", [bytes], bytes), ("Before", [time], bool),
   ("Compare", [time], int), ("Day", [], int), ("Equal", [time], bool), ("Format", [text], text),
   ("GoString", [], text), ("GobEncode", [], bytes), ("Hour", [], int), ("ISOWeek", [], int), ("In", [zone], time),
   ("IsDST", [], bool), ("IsZero", [], bool), ("Local", [], time), ("Location", [], zone), ("MarshalBinary", [], bytes),
   ("MarshalJSON", [], bytes), ("MarshalText", [], bytes), ("Minute", [], int), ("Month", [], month),
   ("Nanosecond", [], int), ("Round", [duration], time), ("Second", [], int), ("String", [], text),
   ("Sub", [time], duration), ("Truncate", [duration], time), ("UTC", [], time), ("Unix", [], long),
   ("UnixMicro", [], long), ("UnixMilli", [], long), ("UnixNano", [], long), ("Weekday", [], weekday), ("Year", [], int),
   ("YearDay", [], int), ("Zone", [], text), ("ZoneBounds", [], time)]

/-- What can be done with a value of a nature. -/
def methods : Nature → List (String × List Nature × Nature)
  | duration => durationMethods
  | time => timeMethods
  | month | weekday | zone => [("String", [], text)]
  | _ => []

/-- The names of what can be done with a value of a nature. A calendar and a clock give more than one part of a moment,
which is too much where its nature is known. -/
def asks (n : Nature) : List String := n.methods.map (·.1) ++ if n = time then ["Clock", "Date"] else []

/-- The parts of a value of a nature that have names, but cannot be looked at. -/
def hidden : Nature → List (String × Nature)
  | time => [("wall", long), ("ext", long), ("loc", zone)]
  | zone | place =>
    [("name", text), ("zone", listOf unknown), ("tx", listOf unknown), ("extend", text), ("cacheStart", long),
     ("cacheEnd", long), ("cacheZone", zone)]
  | _ => []

/-- The nature of what is found in a value under a key of a nature; `name` is the key if it is a constant text. -/
def member? (base key : Nature) (name : Option String) : Option Nature :=
  if base.isUnknown then some unknown
  else if name.any base.asks.contains then name.map (method base)
  else match base with
    | map sort item => if key.isUnknown || key.fits (if sort = .named then text else any) then some item else none
    | list _ item => if key.isInteger || key.isUnknown then some item else none
    | base => name.bind fun x => base.hidden.lookup x

/-- Whether arguments of some natures can be given for others. -/
def accepts (wanted given : List Nature) : Bool :=
  given.length == wanted.length && (given.zip wanted).all fun (g, w) =>
    if g = nil then w = any || w = zone else (g.isInteger && w.isInteger) || g.isUnknown || g.fits w

end Nature

end Literate.Filter
