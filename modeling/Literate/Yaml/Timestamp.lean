import Literate.Text.Digits

/-!
# Timestamps

Which texts are taken for a date, for a date and a time, or for an hour and a minute. A writer puts quotes around them.
-/

namespace Literate.Yaml

open Text

/-- A number of exactly two digits, and what follows it. -/
def two? : Text → Option (Nat × Text)
  | a :: b :: rest =>
    if isDigit a && isDigit b then some ((a - byte '0').toNat * 10 + (b - byte '0').toNat, rest) else none
  | _ => none

/-- A number of one or two digits, and what follows it. -/
def oneOrTwo? (t : Text) : Option (Nat × Text) :=
  (two? t).or <| match t with
    | a :: rest => if isDigit a then some ((a - byte '0').toNat, rest) else none
    | [] => none

/-- What follows a byte that has to stand here. -/
def after? (c : Char) : Text → Option Text
  | [] => none
  | b :: rest => if b = byte c then some rest else none

/-- The number of days of a month. -/
def daysOf (year month : Nat) : Nat :=
  if month = 2 then if year % 4 = 0 ∧ (year % 100 ≠ 0 ∨ year % 400 = 0) then 29 else 28
  else if month ∈ [4, 6, 9, 11] then 30
  else 31

/-- What follows a date such as `2006-01-02`. -/
def date? (t : Text) : Option Text := do
  let (century, t) ← two? t
  let (year, t) ← two? t
  let (month, t) ← two? (← after? '-' t)
  let (day, t) ← two? (← after? '-' t)
  if 1 ≤ month ∧ month ≤ 12 ∧ 1 ≤ day ∧ day ≤ daysOf (century * 100 + year) month then some t else none

/-- The text without a fraction of a second. -/
def dropFraction (t : Text) : Text :=
  match t with
  | p :: d :: rest => if (p = byte '.' ∨ p = byte ',') ∧ isDigit d then rest.dropWhile isDigit else t
  | _ => t

/-- What follows a time such as `15:04:05`, with or without a fraction. -/
def clock? (t : Text) : Option Text := do
  let (hour, t) ← oneOrTwo? t
  let (minute, t) ← two? (← after? ':' t)
  let (second, t) ← two? (← after? ':' t)
  if hour < 24 ∧ minute < 60 ∧ second < 60 then some (dropFraction t) else none

/-- What follows a zone such as `Z` or `+07:00`. -/
def zone? (t : Text) : Option Text :=
  match t with
  | [] => none
  | s :: rest =>
    if s = byte 'Z' then some rest
    else if s = byte '+' ∨ s = byte '-' then do
      let (hour, rest) ← two? rest
      let (minute, rest) ← two? (← after? ':' rest)
      if hour ≤ 24 ∧ minute ≤ 60 then some rest else none
    else none

/-- Whether a text is a date, a date with a time, or an hour with a minute. -/
def isTimestamp (t : Text) : Bool :=
  let whole := fun (rest : Option Text) => rest == some []
  whole (date? t) ||
    whole (do zone? (← clock? (← after? 'T' (← date? t)))) ||
    whole (do zone? (← clock? (← after? 't' (← date? t)))) ||
    whole (do clock? (← after? ' ' (← date? t))) ||
    whole (do
      let (hour, t) ← oneOrTwo? t
      let (minute, t) ← oneOrTwo? (← after? ':' t)
      if hour < 24 ∧ minute < 60 then some t else none)

end Literate.Yaml
