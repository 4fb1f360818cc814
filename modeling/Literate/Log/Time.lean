import Literate.Log.Value
import Literate.Text.Case
import Literate.Text.Digits

/-!
# Times and durations as text

A layout is a sample of how a moment is to be written: the sample shows how `Mon Jan 2 15:04:05 2006 -0700` would look,
and every part of it that is recognised is replaced. `Layout.parse` cuts a sample into parts, and `Layout.render` fills
them in.
-/

namespace Literate.Log

open Text

/-! ## Dates -/

/-- A moment on a calendar and a clock: `yearDay` counts from one, and `weekday` from Sunday. -/
structure Civil where
  year : Int
  month : Nat
  day : Nat
  yearDay : Nat
  weekday : Nat
  hour : Nat
  minute : Nat
  second : Nat
  nanosecond : Nat
  zone : Zone

/-- The number of days from 1970-01-01 to the first day of a year. -/
def daysBeforeYear (y : Int) : Int :=
  let p := y - 1
  p * 365 + p.fdiv 4 - p.fdiv 100 + p.fdiv 400 - 719162

/-- Whether a year has a 29th of February. -/
def isLeap (y : Int) : Bool := y.fmod 4 == 0 && (y.fmod 100 != 0 || y.fmod 400 == 0)

/-- The lengths of the months. -/
def monthLengths (leap : Bool) : List Nat := [31, if leap then 29 else 28, 31, 30, 31, 30, 31, 31, 30, 31, 30, 31]

/-- The month and the day of the month of a day of the year, both days counted from zero. -/
def monthOf : (lengths : List Nat) → (month day : Nat) → Nat × Nat
  | [], month, day => (month, day)
  | n :: rest, month, day => if day < n then (month, day) else monthOf rest (month + 1) (day - n)

/-- The first second that the calendar knows, on the first of March of the year -292277022400. Seconds before it are
taken for those after the last second that a word of 64 bits can count from it. -/
def firstSecond : Int := -9223372028741760000

/-- The calendar and the clock of a moment in its zone. -/
def Instant.civil (t : Instant) : Civil :=
  let local_ := firstSecond + (t.seconds + t.zone.offset - firstSecond) % (Word.count : Int)
  let days := local_.fdiv 86400
  let second := (local_.fmod 86400).toNat
  -- A year has 146097 / 400 days on average; the estimate is off by one at most.
  let estimate := 1970 + (days * 400).fdiv 146097
  let year := if days < daysBeforeYear estimate then estimate - 1
    else if daysBeforeYear (estimate + 1) ≤ days then estimate + 1 else estimate
  let yearDay := (days - daysBeforeYear year).toNat
  let (month, day) := monthOf (monthLengths (isLeap year)) 1 yearDay
  { year, month, day := day + 1, yearDay := yearDay + 1, weekday := ((days + 4).fmod 7).toNat
    hour := second / 3600, minute := second / 60 % 60, second := second % 60
    nanosecond := t.nanoseconds, zone := t.zone }

/-! ## Layouts -/

/-- The parts of a layout. -/
inductive Part where
  | literal (t : Text)
  | year | shortYear
  | monthName | monthShort | month | monthPadded
  | weekdayName | weekdayShort
  | day | daySpaced | dayPadded
  | yearDaySpaced | yearDayPadded
  | hour | hour12 | hour12Padded
  | minute | minutePadded
  | second | secondPadded
  | meridiemUpper | meridiemLower
  /-- The abbreviation of the zone. -/
  | zoneName
  /-- The offset of the zone: whether UTC is written `Z`, with a colon, and with minutes and seconds. -/
  | zone (utc colon minutes seconds : Bool)
  /-- A fraction of the second: with which mark, how many digits, and whether zeros at its end are left out. -/
  | fraction (mark : UInt8) (digits : Nat) (trim : Bool)

/-- A layout in parts. -/
abbrev Layout := List Part

namespace Layout

/-- The samples of a fixed spelling and the parts they stand for; a longer sample comes before its beginnings. -/
def samples : List (String × Part) :=
  [("January", .monthName), ("Monday", .weekdayName), ("MST", .zoneName),
   ("01", .monthPadded), ("02", .dayPadded), ("03", .hour12Padded), ("04", .minutePadded), ("05", .secondPadded),
   ("06", .shortYear), ("002", .yearDayPadded), ("15", .hour), ("1", .month), ("2006", .year), ("2", .day),
   ("_2", .daySpaced), ("__2", .yearDaySpaced), ("3", .hour12), ("4", .minute), ("5", .second),
   ("PM", .meridiemUpper), ("pm", .meridiemLower),
   ("-070000", .zone false false true true), ("-07:00:00", .zone false true true true),
   ("-0700", .zone false false true false), ("-07:00", .zone false true true false),
   ("-07", .zone false false false false),
   ("Z070000", .zone true false true true), ("Z07:00:00", .zone true true true true),
   ("Z0700", .zone true false true false), ("Z07:00", .zone true true true false),
   ("Z07", .zone true false false false)]

/-- Whether a text begins with a lower-case ASCII letter. -/
def startsLower : Text → Bool
  | [] => false
  | b :: _ => byte 'a' ≤ b && b ≤ byte 'z'

/-- A short name that is not the beginning of a longer word. -/
def shortName? (t : Text) : Option (Part × Nat) :=
  let names : List (String × Part) := [("Jan", .monthShort), ("Mon", .weekdayShort)]
  names.findSome? fun (sample, part) =>
    (dropStart? t sample).bind fun rest => if startsLower rest then none else some (part, 3)

/-- A fraction of a second: a mark and zeros or nines, with no other digit after them. Their number counts modulo
4096. -/
def fraction? : Text → Option (Part × Nat)
  | mark :: d :: rest =>
    if (mark == byte '.' || mark == byte ',') && (d == byte '0' || d == byte '9') then
      let more := (rest.takeWhile (· == d)).length
      match rest.drop more with
      | [] => some (.fraction mark ((more + 1) % 4096) (d == byte '9'), more + 2)
      | b :: _ => if isDigit b then none else some (.fraction mark ((more + 1) % 4096) (d == byte '9'), more + 2)
    else none
  | _ => none

/-- The part that a text begins with, and its length. The underscore of `_2006` is one that stands before a year. -/
def next? (t : Text) : Option (Part × Nat) :=
  if startsWith t "_2006" then some (.literal "_", 1)
  else match samples.find? fun s => startsWith t s.1 with
    | some (sample, part) => some (part, sample.length)
    | none => (shortName? t).or (fraction? t)

/-- Cuts a sample into parts; the first `skip` bytes belong to the part before. -/
def parseFrom : (skip : Nat) → Text → Layout
  | _, [] => []
  | skip + 1, _ :: rest => parseFrom skip rest
  | 0, b :: rest =>
    match next? (b :: rest) with
    | some (part, length) => part :: parseFrom (length - 1) rest
    | none => .literal [b] :: parseFrom 0 rest

/-- Cuts a sample into parts. -/
def parse (sample : Text) : Layout := parseFrom 0 sample

/-! ## Filling in -/

/-- A number with zeros before it up to a width. -/
def padded (width n : Nat) : Text :=
  let digits := ofNat n
  List.replicate (width - digits.length) (byte '0') ++ digits

/-- A number with spaces before it up to a width. -/
def spaced (width n : Nat) : Text :=
  let digits := ofNat n
  List.replicate (width - digits.length) (byte ' ') ++ digits

/-- The names of the months. -/
def monthNames : List String :=
  ["January", "February", "March", "April", "May", "June", "July", "August", "September", "October", "November",
   "December"]

/-- The names of the days of the week. -/
def weekdayNames : List String := ["Sunday", "Monday", "Tuesday", "Wednesday", "Thursday", "Friday", "Saturday"]

/-- The name with a number. -/
def nameOf (names : List String) (n : Nat) : Text := ofString (names.getD n "")

/-- The hour on a clock of twelve hours. -/
def twelve (hour : Nat) : Nat := if hour % 12 = 0 then 12 else hour % 12

/-- The offset of a zone from UTC. -/
def zoneText (offset : Int) (colon minutes seconds : Bool) : Text :=
  let whole := offset.tdiv 60
  let sep : Text := if colon then ":" else []
  (if whole < 0 then "-" else "+") ++ padded 2 (whole.natAbs / 60) ++
    onlyIf minutes (sep ++ padded 2 (whole.natAbs % 60)) ++ onlyIf seconds (sep ++ padded 2 (offset.natAbs % 60))

/-- A fraction of a second. -/
def fractionText (nanosecond : Nat) (mark : UInt8) (digits : Nat) (trim : Bool) : Text :=
  if trim && nanosecond == 0 then []
  else
    let ds := (padded 9 nanosecond).take digits
    if trim then
      let kept := trimEnd (· == byte '0') ds
      if kept.isEmpty then [] else mark :: kept
    else mark :: ds

/-- The text of a part. -/
def partText (c : Civil) : Part → Text
  | .literal t => t
  | .year => onlyIf (c.year < 0) "-" ++ padded 4 c.year.natAbs
  | .shortYear => padded 2 (c.year.toNat % 100)
  | .monthName => nameOf monthNames (c.month - 1)
  | .monthShort => (nameOf monthNames (c.month - 1)).take 3
  | .month => ofNat c.month
  | .monthPadded => padded 2 c.month
  | .weekdayName => nameOf weekdayNames c.weekday
  | .weekdayShort => (nameOf weekdayNames c.weekday).take 3
  | .day => ofNat c.day
  | .daySpaced => spaced 2 c.day
  | .dayPadded => padded 2 c.day
  | .yearDaySpaced => spaced 3 c.yearDay
  | .yearDayPadded => padded 3 c.yearDay
  | .hour => padded 2 c.hour
  | .hour12 => ofNat (twelve c.hour)
  | .hour12Padded => padded 2 (twelve c.hour)
  | .minute => ofNat c.minute
  | .minutePadded => padded 2 c.minute
  | .second => ofNat c.second
  | .secondPadded => padded 2 c.second
  | .meridiemUpper => if c.hour ≥ 12 then "PM" else "AM"
  | .meridiemLower => if c.hour ≥ 12 then "pm" else "am"
  | .zoneName => if c.zone.abbreviation = [] then zoneText c.zone.offset false true false else c.zone.abbreviation
  | .zone utc colon minutes seconds =>
    if utc && c.zone.offset == 0 then "Z" else zoneText c.zone.offset colon minutes seconds
  | .fraction mark digits trim => fractionText c.nanosecond mark digits trim

/-- A moment in a layout. -/
def render (l : Layout) (t : Instant) : Text :=
  let c := t.civil
  l.flatMap (partText c)

end Layout

/-! ## Named layouts -/

/-- The sample `2006-01-02T15:04:05Z07:00`. -/
def rfc3339 : Text := "2006-01-02T15:04:05Z07:00"

/-- Like `rfc3339`, with a fraction of the second. -/
def rfc3339Nano : Text := "2006-01-02T15:04:05.999999999Z07:00"

/-- The samples that have a name. -/
def namedLayouts : List (String × Text) :=
  [("rfc3339", rfc3339), ("rfc3339nano", rfc3339Nano), ("ansic", "Mon Jan _2 15:04:05 2006"),
   ("unixdate", "Mon Jan _2 15:04:05 MST 2006"), ("rubydate", "Mon Jan 02 15:04:05 -0700 2006"),
   ("rfc822", "02 Jan 06 15:04 MST"), ("rfc822z", "02 Jan 06 15:04 -0700"),
   ("rfc850", "Monday, 02-Jan-06 15:04:05 MST"), ("kitchen", "3:04PM"), ("datetime", "2006-01-02 15:04:05"),
   ("timeonly", "15:04:05"), ("stamp", "Jan _2 15:04:05"), ("none", ""),
   ("stampmilli", "Jan _2 15:04:05.000"), ("milli", "Jan _2 15:04:05.000"), ("ms", "Jan _2 15:04:05.000"),
   ("stampmicro", "Jan _2 15:04:05.000000"), ("micro", "Jan _2 15:04:05.000000"), ("us", "Jan _2 15:04:05.000000")]

/-- The sample that a layout names, or else is. A name may be in any case and have other characters between its letters
and digits; a layout with neither letters nor digits is empty, and then no times are written. -/
def resolveLayout (layout : Text) : Text :=
  let name := (toLower layout).filter fun b => (byte 'a' ≤ b && b ≤ byte 'z') || isDigit b
  if name.isEmpty then []
  else match namedLayouts.find? fun l => ofString l.1 == name with
    | some (_, sample) => sample
    | none => layout

/-- A moment in a layout given by its sample. -/
def Instant.format (sample : Text) (t : Instant) : Text := (Layout.parse sample).render t

/-! ## Durations -/

/-- `n / 10 ^ places` without zeros at the end of the fraction. -/
def fractionOf (places n : Nat) : Text :=
  let kept := trimEnd (· == byte '0') (Layout.padded places (n % Nat.pow 10 places))
  ofNat (n / Nat.pow 10 places) ++ onlyIf (places ≠ 0 ∧ kept ≠ []) (byte '.' :: kept)

/-- A duration in hours, minutes and seconds; below a second in the largest unit of which there is one. -/
def durationText (nanoseconds : Int) : Text :=
  let u := nanoseconds.natAbs
  let magnitude : Text :=
    if u = 0 then "0s"
    else if u < 1000 then ofNat u ++ "ns"
    else if u < 1000000 then fractionOf 3 u ++ "µs"
    else if u < 1000000000 then fractionOf 6 u ++ "ms"
    else
      let seconds := u / 1000000000
      let minutes := seconds / 60
      let hours := minutes / 60
      onlyIf (hours ≠ 0) (ofNat hours ++ "h") ++ onlyIf (minutes ≠ 0) (ofNat (minutes % 60) ++ "m") ++
        fractionOf 9 (seconds % 60 * 1000000000 + u % 1000000000) ++ "s"
  onlyIf (nanoseconds < 0) "-" ++ magnitude

end Literate.Log
