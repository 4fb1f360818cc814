import Literate.Log.Time

/-!
# Reading moments and durations

A layout is a sample not only of how moments are written, but also of how they are read: `Layout.read?` takes from a text
what the parts of a layout stand for. Durations are read as sums of numbers with units.
-/

namespace Literate.Log

open Text

/-! ## Moments on the calendar -/

/-- The number of days from 1970-01-01 to a day; months and days may be any numbers. -/
def daysOf (year month day : Int) : Int :=
  let y := year + (month - 1).fdiv 12
  let m := ((month - 1).fmod 12).toNat
  daysBeforeYear y + ((((monthLengths (isLeap y)).take m).foldl (· + ·) 0 : Nat) : Int) + day - 1

/-- The moment of a day and a time of day in a zone. -/
def Instant.ofDate (year month day hour minute second : Int) (nanosecond : Nat) (zone : Zone) : Instant :=
  .make (daysOf year month day * 86400 + hour * 3600 + minute * 60 + second - zone.offset) nanosecond zone

/-- A moment some nanoseconds later. -/
def Instant.after (t : Instant) (nanoseconds : Int) : Instant :=
  .make t.seconds (t.nanoseconds + nanoseconds) t.zone

/-- The nanoseconds from the start of the year one to a moment. -/
def Instant.sinceZero (t : Instant) : Int := (t.seconds - Instant.zero.seconds) * 1000000000 + t.nanoseconds

/-- The largest length of time. -/
def maxDuration : Int := 9223372036854775807

/-- The nanoseconds from one moment to another, as far as they fit in 64 bits. -/
def Instant.since (t u : Instant) : Int :=
  let d := t.sinceZero - u.sinceZero
  if maxDuration < d then maxDuration else if d < -maxDuration - 1 then -maxDuration - 1 else d

/-! ## Layouts -/

/-- What has been read of a moment. -/
structure Draft where
  year : Int := 0
  month : Option Nat := none
  day : Option Nat := none
  yearDay : Option Nat := none
  hour : Nat := 0
  minute : Nat := 0
  second : Nat := 0
  nanosecond : Nat := 0
  /-- Whether the hour is one after noon, or one before it. -/
  afternoon : Option Bool := none
  /-- Whether the zone is said to be UTC. -/
  isUtc : Bool := false
  offset : Option Int := none
  /-- The abbreviation of the zone. -/
  zone : Text := []

namespace Layout

/-- A number of one digit or two, and what follows it; `fixed` asks for two. -/
def twoDigits? (fixed : Bool) (t : Text) : Option (Nat × Text) :=
  match t with
  | [] => none
  | a :: rest =>
    if isDigit a then
      match rest with
      | b :: after =>
        if isDigit b then some ((a - byte '0').toNat * 10 + (b - byte '0').toNat, after)
        else if fixed then none else some ((a - byte '0').toNat, rest)
      | [] => if fixed then none else some ((a - byte '0').toNat, [])
    else none

/-- A number of at most three digits, and what follows it; `fixed` asks for three. -/
def threeDigits? (fixed : Bool) (t : Text) : Option (Nat × Text) :=
  let ds := (t.take 3).takeWhile isDigit
  if fixed ∧ ds.length ≠ 3 then none else (digits? 10 ds).map fun n => (n, t.drop ds.length)

/-- The place of a name at the start of a text, in any case, and what follows it. -/
def named? (names : List String) (t : Text) : Option (Nat × Text) :=
  let lower := fun (u : Text) => u.map fun b => if byte 'A' ≤ b ∧ b ≤ byte 'Z' then b + 32 else b
  (names.zipIdx.find? fun n => startsWith (lower t) (lower n.1)).map fun n => (n.2, t.drop n.1.length)

/-- A short form of names. -/
def short (names : List String) : List String := names.map fun n => (n.take 3).toString

/-- Nanoseconds after a mark: as many digits as there are, of which nine count. -/
def fractionDigits? (t : Text) : Option (Nat × Text) :=
  match t with
  | mark :: rest =>
    let ds := rest.takeWhile isDigit
    if (mark = byte '.' ∨ mark = byte ',') ∧ ds ≠ [] then
      (digits? 10 ((ds ++ List.replicate 9 (byte '0')).take 9)).map fun n => (n, rest.drop ds.length)
    else none
  | [] => none

/-- The offset of a zone as it is written, and what follows it. -/
def offset? (colon minutes seconds : Bool) (t : Text) : Option (Int × Text) := do
  let negative ← if startsWith t "-" then some true else if startsWith t "+" then some false else none
  let sep := fun (t : Text) => if colon then dropStart? t ":" else some t
  let (h, t) ← twoDigits? true (t.drop 1)
  let (m, t) ← if minutes then (sep t).bind (twoDigits? true) else some (0, t)
  let (s, t) ← if seconds then (sep t).bind (twoDigits? true) else some (0, t)
  if 24 < h ∨ 60 < m ∨ 60 < s then none
  else
    let n : Int := (h * 60 + m) * 60 + s
    return (if negative then -n else n, t)

/-- A sign and a number of hours that a day has, at the start of a text, as a number, and the length of both. -/
def signedHours? (t : Text) : Option (Int × Nat) :=
  let ds := (t.drop 1).takeWhile isDigit
  let hours := (digits? 10 ds).getD 24
  if hours ≤ 23 then
    if startsWith t "+" then some (hours, ds.length + 1)
    else if startsWith t "-" then some (-(hours : Int), ds.length + 1)
    else none
  else none

/-- The length of the abbreviation of a zone at the start of a text: three capital letters, four or five of which the last
is a T, or a sign and hours, which can follow `GMT` as well. A few zones have names of their own. -/
def zoneLength? (t : Text) : Option Nat :=
  let letters := (t.takeWhile fun b => byte 'A' ≤ b && b ≤ byte 'Z').take 6
  if t.length < 3 then none
  else if startsWith t "ChST" ∨ startsWith t "MeST" ∨ letters = ("WITA" : Text) then some 4
  else if startsWith t "GMT" then some (3 + ((signedHours? (t.drop 3)).map (·.2)).getD 0)
  else if startsWith t "+" ∨ startsWith t "-" then (signedHours? t).map (·.2)
  else if letters.length = 3 ∨ ((letters.length = 4 ∨ letters.length = 5) ∧ endsWith letters "T") then some letters.length
  else none

/-- The offset that the abbreviation of a zone says: only `GMT` with hours says one. -/
def zoneOffset (zone : Text) : Int :=
  match dropStart? zone "GMT" with
  | some hours => ((signedHours? hours).map (·.1 * 3600)).getD 0
  | none => 0

/-- What follows a literal part of a layout; a space stands for any number of spaces. -/
def afterLiteral? : Text → Text → Option Text
  | [], t => some t
  | 32 :: p, t =>
    if t.head?.all (· = 32) then afterLiteral? p (if p.head? = some 32 then t else t.dropWhile (· = 32)) else none
  | b :: p, t => (dropStart? t [b]).bind (afterLiteral? p)

/-- A layout in which literal parts that follow each other are one. -/
def joined : Layout → Layout
  | [] => []
  | .literal p :: rest =>
    match joined rest with
    | .literal q :: rest => .literal (p ++ q) :: rest
    | rest => .literal p :: rest
  | part :: rest => part :: joined rest

/-- Whether a part is a fraction of a second. -/
def isFraction : Part → Bool
  | .fraction .. => true
  | _ => false

/-- What a part stands for at the start of a text; `next` is the part after it. -/
def readPart? (part : Part) (next : Option Part) (d : Draft) (t : Text) : Option (Draft × Text) :=
  let set := fun (found : Option (Nat × Text)) (least limit : Nat) (f : Nat → Draft) =>
    found.bind fun (n, rest) => if least ≤ n ∧ n < limit then some (f n, rest) else none
  match part with
  | .literal p => (afterLiteral? p t).map fun t => (d, t)
  | .year => if (t.take 4).length = 4 then (digits? 10 (t.take 4)).map fun n => ({ d with year := n }, t.drop 4) else none
  | .shortYear =>
    if (t.take 2).length = 2 then
      (digits? 10 (t.take 2)).map fun n => ({ d with year := if 69 ≤ n then 1900 + n else 2000 + n }, t.drop 2)
    else none
  | .monthName => (named? monthNames t).map fun (n, t) => ({ d with month := some (n + 1) }, t)
  | .monthShort => (named? (short monthNames) t).map fun (n, t) => ({ d with month := some (n + 1) }, t)
  | .month => set (twoDigits? false t) 1 13 fun n => { d with month := some n }
  | .monthPadded => set (twoDigits? true t) 1 13 fun n => { d with month := some n }
  | .weekdayName => (named? weekdayNames t).map fun (_, t) => (d, t)
  | .weekdayShort => (named? (short weekdayNames) t).map fun (_, t) => (d, t)
  | .day => (twoDigits? false t).map fun (n, t) => ({ d with day := some n }, t)
  | .daySpaced => (twoDigits? false ((dropStart? t " ").getD t)).map fun (n, t) => ({ d with day := some n }, t)
  | .dayPadded => (twoDigits? true t).map fun (n, t) => ({ d with day := some n }, t)
  | .yearDaySpaced =>
    let t := (dropStart? t " ").getD t
    (threeDigits? false ((dropStart? t " ").getD t)).map fun (n, t) => ({ d with yearDay := some n }, t)
  | .yearDayPadded => (threeDigits? true t).map fun (n, t) => ({ d with yearDay := some n }, t)
  | .hour => set (twoDigits? false t) 0 24 fun n => { d with hour := n }
  | .hour12 => set (twoDigits? false t) 0 13 fun n => { d with hour := n }
  | .hour12Padded => set (twoDigits? true t) 0 13 fun n => { d with hour := n }
  | .minute => set (twoDigits? false t) 0 60 fun n => { d with minute := n }
  | .minutePadded => set (twoDigits? true t) 0 60 fun n => { d with minute := n }
  | .second | .secondPadded =>
    let fixed := match part with
      | .secondPadded => true
      | _ => false
    (set (twoDigits? fixed t) 0 60 fun n => { d with second := n }).bind fun (d, t) =>
      if next.any isFraction then some (d, t)
      else match fractionDigits? t with
        | some (n, t) => some ({ d with nanosecond := n }, t)
        | none => some (d, t)
  | .meridiemUpper =>
    if startsWith t "PM" then some ({ d with afternoon := some true }, t.drop 2)
    else if startsWith t "AM" then some ({ d with afternoon := some false }, t.drop 2)
    else none
  | .meridiemLower =>
    if startsWith t "pm" then some ({ d with afternoon := some true }, t.drop 2)
    else if startsWith t "am" then some ({ d with afternoon := some false }, t.drop 2)
    else none
  | .zoneName => if startsWith t "UTC" then some ({ d with isUtc := true }, t.drop 3)
    else (zoneLength? t).map fun n => ({ d with zone := t.take n }, t.drop n)
  | .zone utc colon minutes seconds =>
    if utc ∧ startsWith t "Z" then some ({ d with isUtc := true }, t.drop 1)
    else (offset? colon minutes seconds t).map fun (n, t) => ({ d with offset := some n }, t)
  | .fraction _ n trim =>
    if trim then
      match fractionDigits? t with
      | some (n, t) => some ({ d with nanosecond := n }, t)
      | none => some (d, t)
    else
      match fractionDigits? (t.take (n + 1)) with
      | some (nanosecond, []) => if (t.take (n + 1)).length = n + 1 then some ({ d with nanosecond }, t.drop (n + 1)) else none
      | _ => none

/-- Reads the parts of a layout one after another; nothing may follow the last. -/
def readFrom? : Layout → Draft → Text → Option Draft
  | [], d, t => if t = [] then some d else none
  | part :: rest, d, t => (readPart? part rest.head? d t).bind fun (d, t) => readFrom? rest d t

/-- A time of a day in the zone that was read: `missing` if none was, and `home` if what was read is that. An offset of one
second before UTC is taken for none, and one that only the abbreviation of a zone says is shown with the moment, but does
not move it. -/
def inZone (d : Draft) (missing home : Zone) (time : Zone → Instant) : Instant :=
  if d.isUtc then time .utc
  else match d.offset.filter (· ≠ -1) with
    | some n => time (if n = home.offset ∧ (d.zone = [] ∨ d.zone = home.abbreviation) then home else .fixed d.zone n)
    | none =>
      if d.zone = [] then time missing
      else if home = .fixed d.zone home.offset then time home
      else { time .utc with zone := .fixed d.zone (zoneOffset d.zone) }

/-- The moment that was read, if there is such a day. -/
def moment? (d : Draft) (missing home : Zone) : Option Instant :=
  let hour := match d.afternoon with
    | some true => if d.hour < 12 then d.hour + 12 else d.hour
    | some false => if d.hour = 12 then 0 else d.hour
    | none => d.hour
  let lengths := monthLengths (isLeap d.year)
  let date := match d.yearDay with
    | some n =>
      if n = 0 ∨ (if isLeap d.year then 366 else 365) < n then none
      else
        let (month, day) := monthOf lengths 1 (n - 1)
        if d.month.all (· = month) ∧ d.day.all (· = day + 1) then some (month, day + 1) else none
    | none =>
      let month := d.month.getD 1
      let day := d.day.getD 1
      if day = 0 ∨ lengths.getD (month - 1) 0 < day then none else some (month, day)
  date.map fun (month, day) =>
    inZone d missing home (Instant.ofDate d.year month day hour d.minute d.second d.nanosecond)

/-- Reads a moment that is written in a layout. -/
def read? (l : Layout) (missing home : Zone) (t : Text) : Option Instant :=
  (readFrom? l.joined {} t).bind fun d => moment? d missing home

end Layout

/-! ## Durations -/

/-- The units of durations, in nanoseconds. -/
def units : List (String × Nat) :=
  [("ns", 1), ("us", 1000), ("µs", 1000), ("μs", 1000), ("ms", 1000000), ("s", 1000000000), ("m", 60000000000),
   ("h", 3600000000000)]

/-- The digits of a fraction that count, as a number, and the power of ten that it is to be divided by. -/
def fractionParts (ds : Text) : Nat × Float :=
  let kept := ds.foldl (fun (acc : Nat × Float × Bool) b =>
    let (x, scale, full) := acc
    let y := x * 10 + (b - byte '0').toNat
    if full ∨ (Word.half - 1) / 10 < x ∨ Word.half < y then (x, scale, true) else (y, scale * 10, false)) (0, 1, false)
  (kept.1, kept.2.1)

/-- The sum of numbers with units, after a total so far; at most `n` are read. -/
def durationFrom? : (n : Nat) → (total : Nat) → Text → Option Nat
  | 0, total, t => if t = [] then some total else none
  | n + 1, total, t =>
    if t = [] then some total
    else
      let whole := t.takeWhile isDigit
      let rest := t.drop whole.length
      let point := startsWith rest "."
      let fraction := if point then (rest.drop 1).takeWhile isDigit else []
      let rest := if point then rest.drop (1 + fraction.length) else rest
      let unit := rest.takeWhile fun b => !(isDigit b || b = byte '.')
      if whole = [] ∧ fraction = [] then none
      else do
        let size ← (units.find? fun u => ofString u.1 = unit).map (·.2)
        let v := (digits? 10 whole).getD 0
        if Word.half / size < v then none
        else
          let (f, scale) := fractionParts fraction
          let v := v * size + (if f = 0 then 0 else (Float.ofNat f * (Float.ofNat size / scale)).toUInt64.toNat)
          if Word.half < v ∨ Word.half < total + v then none
          else durationFrom? n (total + v) (rest.drop unit.length)

/-- Reads a duration, in nanoseconds. -/
def readDuration? (t : Text) : Option Int :=
  let negative := startsWith t "-"
  let body := if negative ∨ startsWith t "+" then t.drop 1 else t
  if body = ("0" : Text) then some 0
  else if body = [] then none
  else (durationFrom? body.length 0 body).bind fun n =>
    if negative then some (-(n : Int)) else if n < Word.half then some n else none

end Literate.Log
