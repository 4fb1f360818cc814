import Literate.Text.Symbol

/-!
# Splitting and replacing

A text is cut at the occurrences of another, from left to right and not overlapping. The empty text occurs before every
character. A limit says how many pieces there are at most; a negative one says nothing.
-/

namespace Literate.Text

/-- The pieces between occurrences of a text that is not empty, of which at most `limit` are cut off. `piece` is the
piece read so far, and `skip` counts the bytes of an occurrence that are still to be passed. -/
def cutAll (sep piece : Text) : (limit : Option Nat) → (skip : Nat) → Text → List Text
  | _, _, [] => [piece]
  | limit, skip + 1, _ :: rest => cutAll sep piece limit skip rest
  | limit, 0, b :: rest =>
    if limit ≠ some 0 ∧ sep.isPrefixOf (b :: rest) then
      piece :: cutAll sep [] (limit.map (· - 1)) (sep.length - 1) rest
    else cutAll sep (piece ++ [b]) limit 0 rest

/-- The characters of a text; the last piece holds what is beyond the limit. -/
def cutSymbols (limit : Option Nat) (t : Text) : List Text :=
  let rs := (symbols t).map (·.bytes)
  match limit with
  | none => rs
  | some n => if rs.length ≤ n + 1 then rs else rs.take n ++ [(rs.drop n).flatten]

/-- The number of cuts for a number of pieces. -/
def cutsOf (pieces : Option Int) : Option Nat :=
  match pieces with
  | some n => if n < 0 then none else some (n - 1).toNat
  | none => none

/-- The pieces of a text between occurrences of another. -/
def splitOn (t sep : Text) (pieces : Option Int) : List Text :=
  if pieces = some 0 then []
  else if sep = [] then cutSymbols (cutsOf pieces) t
  else cutAll sep [] (cutsOf pieces) 0 t

/-- The pieces of a text, each with the occurrence at its end. -/
def splitAfter (t sep : Text) (pieces : Option Int) : List Text :=
  let ps := splitOn t sep pieces
  if sep = [] then ps else ps.dropLast.map (· ++ sep) ++ ps.getLast?.toList

/-- The text with a number of occurrences of `p` replaced by `q`. -/
def replace (t p q : Text) (times : Option Int) : Text :=
  let limit := match times with
    | some n => if n < 0 then none else some n.toNat
    | none => none
  if p = [] then
    let rs := (symbols t).map (·.bytes)
    let n := (limit.getD (rs.length + 1))
    ((rs.take n).flatMap fun r => q ++ r) ++ (rs.drop n).flatten ++ if rs.length < n then q else []
  else join q (cutAll p [] limit 0 t)

end Literate.Text
