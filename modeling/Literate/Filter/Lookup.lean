import Literate.Filter.Nature

/-!
# Looking into values

What is found in a value under a key: elements of lists, values of maps, fields of the entry, and what can be done with
lengths of time and moments.
-/

namespace Literate.Filter.Value

open Text

/-- The element at a place, counted from the end if it is negative. -/
def at? {α : Type} (xs : List α) (i : Int) : Option α :=
  let i := if i < 0 then xs.length + i else i
  if i < 0 then none else xs[i.toNat]?

/-- The part of a sequence between two places, which are counted from the end if they are negative. -/
def part {α : Type} (xs : List α) (lo hi : Int) : List α :=
  let n : Int := xs.length
  let place := fun (i : Int) => if i < 0 then (if n + i < 0 then 0 else n + i) else i
  let b := if n < place hi then n else place hi
  let a := if b < place lo then b else place lo
  (xs.take b.toNat).drop a.toNat

mutual

/-- Whether a value can be a key: it has no lists or maps in it, unless it is a pair of keys. -/
def isKey : Value → Bool
  | list sort _ vs => sort == .pair && areKeys vs
  | map .. | entry _ | zone _ false | method .. => false
  | _ => true

/-- Whether values can be keys. -/
def areKeys : List Value → Bool
  | [] => true
  | v :: vs => isKey v && areKeys vs

end

/-- The value that a map has for a key; `none` if there can be no such key, and `none` within if there is none. Nothing
stands for the empty text as a key where keys are texts. -/
def valueAt? (sort : MapSort) (entries : List (Value × Value)) (key : Value) : Option (Option Value) :=
  let find := fun (k : Value) => (entries.find? fun e => k.identical e.1).map (·.2)
  match sort, key with
  | .named, nil => some (find (text []))
  | .named, text t => some (find (text t))
  | .named, _ => none
  | _, k => if k.isKey then some (find k) else none

/-- A map with a value for a key. -/
def put (entries : List (Value × Value)) (key value : Value) : List (Value × Value) :=
  if entries.any fun e => key.identical e.1 then
    entries.map fun e => if key.identical e.1 then (e.1, value) else e
  else entries ++ [(key, value)]

/-- The field of an entry with a name. -/
def field? (e : Entry) (x : Text) : Option Value :=
  ((fields e).find? fun f => ofString f.1 = x ∨ ofString f.2.1 = x).map (·.2.2)

/-- The nature of a value that can be asked something. -/
def nature : Value → Nature
  | duration _ => .duration
  | time _ => .time
  | month _ => .month
  | weekday _ => .weekday
  | zone _ true => .zone
  | _ => .unknown

/-- What can be done with a value, by a name. -/
def method? (v : Value) (x : Text) : Option Value :=
  (v.nature.asks.find? fun m => ofString m = x).map (method v)

/-- Whether a part of a value that cannot be looked at has a name. -/
def hides (v : Value) (x : Text) : Bool :=
  let nature : Nature := match v with
    | zone .. => .zone
    | v => v.nature
  nature.hidden.any fun part => ofString part.1 = x

/-- What is found in a value under a key: a byte of a text, an element of a list, a value of a map, a field, or what can be
done with the value. -/
def fetch? (v key : Value) : Option Value :=
  match v with
  | text t => (key.place?.bind (at? t)).map fun b => .byte b.toNat
  | list _ _ vs => key.place?.bind (at? vs)
  | map sort es => (valueAt? sort es key).map fun found => found.getD sort.default
  | entry e => key.text?.bind (field? e)
  | v => key.text?.bind v.method?

/-- Like `fetch?`, but nothing if there is nothing to be found. -/
def get? (v key : Value) : Option Value :=
  match v with
  | text t => key.place?.map fun i => ((at? t i).map fun b => Value.byte b.toNat).getD nil
  | list _ _ vs => key.place?.map fun i => (at? vs i).getD nil
  | map sort es => (valueAt? sort es key).map fun found => found.getD nil
  | entry e => key.text?.map fun x => (field? e x).getD nil
  | time _ | zone .. => key.text?.bind fun x => if v.hides x then none else some ((v.method? x).getD nil)
  | v => some ((key.text?.bind v.method?).getD nil)

/-- Whether a value is in another: an element of a list, a key of a map, or the name of a part. -/
def within? (v whole : Value) : Option Bool :=
  match whole.plain with
  | nil => some false
  | list _ _ vs => some (vs.any fun u => u.same v.plain)
  | map sort es => (valueAt? sort es v.plain).map (·.isSome)
  | entry e => v.text?.map fun x => (fields e).any fun f => ofString f.2.1 = x
  | time t => v.text?.map (time t).hides
  | zone z handle => v.text?.map (zone z handle).hides
  | _ => none

/-- The elements that a loop goes through: those of a list, or the bytes of a text. A map can be counted, but its elements
cannot be looked at. -/
def elements? : Value → Option (List (Option Value))
  | list _ _ vs => some (vs.map some)
  | text t => some (t.map fun b => some (.byte b.toNat))
  | map _ es => some (es.map fun _ => none)
  | _ => none

/-- The number of bytes of a text or of things in a list or a map. -/
def length? : Value → Option Int
  | text t => some t.length
  | list _ _ vs => some vs.length
  | map _ es => some es.length
  | _ => none

/-- The part of a text or of a list between two places. -/
def slice? (v lo hi : Value) : Option Value := do
  let a ← lo.place?
  let b ← hi.place?
  match v with
  | text t => return text (part t a b)
  | list sort made vs => return list (if sort = .pair then .plain else sort) made (part vs a b)
  | _ => none

end Literate.Filter.Value
