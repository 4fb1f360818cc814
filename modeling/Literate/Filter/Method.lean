import Literate.Filter.Json
import Literate.Log.Moment

/-!
# Methods of times

What can be asked of lengths of time, of moments and of their parts by a name after a dot.
-/

namespace Literate.Filter

open Text Log

/-- A length of time rounded to a multiple of another, half of it away from zero, as far as it fits in 64 bits. -/
def roundTo (n unit : Int) : Int :=
  if unit ≤ 0 then n
  else
    let r := n.natAbs % unit.natAbs
    let near := if 2 * r < unit.natAbs then n.natAbs - r else n.natAbs - r + unit.natAbs
    if n < 0 then (if maxDuration + 1 < near then -maxDuration - 1 else -(near : Int))
    else if maxDuration < near then maxDuration else near

/-- A number of units of time, as a floating-point number: the whole units, and the rest of one. -/
def inUnits (n unit : Int) : Value := .float (Float.ofInt (n.tdiv unit) + Float.ofInt (n.tmod unit) / Float.ofInt unit)

/-- What a length of time is asked. -/
def durationMethod? (n : Int) (x : String) (args : List Value) : Option Value :=
  match x, args with
  | "Abs", [] => some (.duration (if n = -maxDuration - 1 then maxDuration else n.natAbs))
  | "Hours", [] => some (inUnits n 3600000000000)
  | "Minutes", [] => some (inUnits n 60000000000)
  | "Seconds", [] => some (inUnits n 1000000000)
  | "Milliseconds", [] => some (.long (n.tdiv 1000000))
  | "Microseconds", [] => some (.long (n.tdiv 1000))
  | "Nanoseconds", [] => some (.long n)
  | "Round", [.duration unit] => some (.duration (roundTo n unit))
  | "Truncate", [.duration unit] => some (.duration (if unit ≤ 0 then n else n - n.tmod unit))
  | "String", [] => some (.text (durationText n))
  | _, _ => none

/-- The year to which the week of a day belongs: that of its Thursday. -/
def weekYear (c : Civil) : Int :=
  let thursday : Int := c.yearDay + 4 - (if c.weekday = 0 then 7 else c.weekday : Nat)
  if thursday < 1 then c.year - 1
  else if (if isLeap c.year then 366 else 365) < thursday then c.year + 1
  else c.year

/-- How a moment is written in a program. -/
def programText (t : Instant) : Text :=
  let c := t.civil
  let zone : Text := match t.zone with
    | .utc => "time.UTC"
    | .host => "time.Local"
    | .fixed name _ => "time.Location(\"" ++ name ++ "\")"
  "time.Date(" ++ join ", "
    [ofInt c.year, "time." ++ Layout.nameOf Layout.monthNames (c.month - 1), ofNat c.day, ofNat c.hour, ofNat c.minute,
     ofNat c.second, ofNat c.nanosecond, zone] ++ ")"

/-- The lowest bytes of an integer, the highest of them first. -/
def wordBytes (count : Nat) (n : Int) : List UInt8 :=
  ((List.range count).reverse).map fun i => UInt8.ofNat ((n.fdiv (Nat.pow 256 i)) % 256).toNat

/-- A moment as bytes: a version, the seconds since the start of the year one, the nanoseconds, and the minutes by which its
zone is off from UTC, or minus one for UTC itself. The second version has the seconds of that offset as well. -/
def packed? (t : Instant) : Option Text :=
  let seconds := t.zone.offset.tmod 60
  let minutes := t.zone.offset.tdiv 60
  if t.zone ≠ .utc ∧ (minutes = -1 ∨ minutes < -32768 ∨ 32767 < minutes) then none
  else some <|
    (if seconds = 0 then 1 else 2) :: (wordBytes 8 (t.seconds - Instant.zero.seconds) ++ wordBytes 4 t.nanoseconds ++
      wordBytes 2 (if t.zone = .utc then -1 else minutes) ++ if seconds = 0 then [] else wordBytes 1 seconds)

/-- Bytes after those of a list; without any it was made only if the list was. -/
def appended (made : Bool) (before : List Value) (t : Text) : Value :=
  .list .bytes (made || !t.isEmpty) (before ++ t.map fun b => .byte b.toNat)

/-- What a moment is asked. -/
def timeMethod? (t : Instant) (x : String) (args : List Value) : Option Value :=
  let c := t.civil
  let since := t.sinceZero
  match x, args with
  | "Year", [] => some (.int c.year)
  | "Month", [] => some (.month c.month)
  | "Day", [] => some (.int c.day)
  | "YearDay", [] => some (.int c.yearDay)
  | "Weekday", [] => some (.weekday c.weekday)
  | "Hour", [] => some (.int c.hour)
  | "Minute", [] => some (.int c.minute)
  | "Second", [] => some (.int c.second)
  | "Nanosecond", [] => some (.int c.nanosecond)
  | "Unix", [] => some (.long t.seconds)
  | "UnixMilli", [] => some (.long (Word.wrap (t.seconds * 1000 + t.nanoseconds / 1000000)))
  | "UnixMicro", [] => some (.long (Word.wrap (t.seconds * 1000000 + t.nanoseconds / 1000)))
  | "UnixNano", [] => some (.long (Word.wrap (t.seconds * 1000000000 + t.nanoseconds)))
  | "IsZero", [] => some (.bool t.isZero)
  | "IsDST", [] => some (.bool false)
  | "ISOWeek", [] => some (.int (weekYear c))
  | "Clock", [] => some (.int c.hour)
  | "Date", [] => some (.int c.year)
  | "Zone", [] => some (.text t.zone.abbreviation)
  | "ZoneBounds", [] => some (.time .zero)
  | "Location", [] => some (.zone t.zone true)
  | "UTC", [] => some (.time { t with zone := .utc })
  | "Local", [] => some (.time { t with zone := .host })
  | "In", [.zone z true] => some (.time { t with zone := z })
  | "String", [] => some (.text (Value.time t).display)
  | "GoString", [] => some (.text (programText t))
  | "MarshalText", [] => (Value.jsonTime? t).map (appended true [])
  | "MarshalJSON", [] => (Value.jsonTime? t).map fun text => appended true [] ("\"" ++ text ++ "\"")
  | "MarshalBinary", [] | "GobEncode", [] => (packed? t).map (appended true [])
  | "AppendText", [.list .bytes made vs] => (Value.jsonTime? t).map (appended made vs)
  | "AppendBinary", [.list .bytes made vs] => (packed? t).map (appended made vs)
  | "AppendFormat", [.list .bytes made vs, .text layout] => some (appended made vs (t.format layout))
  | "Format", [.text layout] => some (.text (t.format layout))
  | "Add", [.duration n] => some (.time (t.after n))
  | "AddDate", [.int y, .int m, .int d] =>
    some (.time (Instant.ofDate (c.year + y) (c.month + m) (c.day + d) c.hour c.minute c.second c.nanosecond t.zone))
  | "Sub", [.time u] => some (.duration (t.since u))
  | "After", [.time u] => some (.bool (u.sinceZero < since))
  | "Before", [.time u] => some (.bool (since < u.sinceZero))
  | "Equal", [.time u] => some (.bool (since = u.sinceZero))
  | "Compare", [.time u] => some (.int (if since < u.sinceZero then -1 else if u.sinceZero < since then 1 else 0))
  | "Truncate", [.duration unit] => some (.time (if unit ≤ 0 then t else t.after (-(since % unit))))
  | "Round", [.duration unit] =>
    let r := since % unit
    some (.time (if unit ≤ 0 then t else if 2 * r < unit then t.after (-r) else t.after (unit - r)))
  | _, _ => none

/-- What stands for nothing where a value of a nature is taken. -/
def zeroOf : Nature → Value
  | .duration => .duration 0
  | .time => .time .zero
  | .int => .int 0
  | .text => .text []
  | .list sort _ => .list sort false []
  | _ => .nil

/-- Values in which nothing is replaced by what stands for it among values of some natures. -/
def withZeros (wanted : List Nature) (args : List Value) : List Value :=
  if wanted.length = args.length then
    (wanted.zip args).map fun
      | (n, .nil) => zeroOf n
      | (_, v) => v
  else args

/-- The value of a call of what can be done with a value. -/
def Value.invoke? (f : Value) (args : List Value) : Option Value :=
  match f with
  | method owner x =>
    let args := withZeros (((owner.nature.methods.lookup x).map (·.1)).getD []) args
    match owner, x with
    | duration n, x => durationMethod? n x args
    | time t, x => timeMethod? t x args
    | owner, "String" => if args.isEmpty then some (text owner.display) else none
    | _, _ => none
  | _ => none

end Literate.Filter
