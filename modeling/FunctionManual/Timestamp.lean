import FunctionManual.Number.Decimal
import FunctionManual.Text.Quoted

/-!
# Timestamps

A point in the Gregorian calendar with microseconds, and the offset of its clock from the common
time where it is known.

* `Timestamp.read`: ISO 8601 dates by month or by week, with or without separators.
* `Timestamp.text`: the extended form, which `read` reads back.
* `Timestamp.same`: equal clocks without offset, or equal instants with one.
* `Timestamp.unixSeconds`: whole seconds since 1970, fractions cut off toward zero.
-/

namespace FunctionManual

open FunctionManual.Text

/-- A timestamp; the offset is in microseconds and positive east of the zero meridian. -/
structure Timestamp where
  year : Nat
  month : Nat
  day : Nat
  hour : Nat := 0
  minute : Nat := 0
  second : Nat := 0
  micro : Nat := 0
  offset : Option Int := none
  deriving DecidableEq, Repr

namespace Timestamp

/-! ## The calendar -/

/-- Leap years of the Gregorian calendar. -/
def isLeap (year : Nat) : Bool := year % 4 = 0 && (year % 100 ≠ 0 || year % 400 = 0)

/-- The number of days of a month. -/
def monthLength (year month : Nat) : Nat :=
  if month = 2 then if isLeap year then 29 else 28
  else if month = 4 || month = 6 || month = 9 || month = 11 then 30 else 31

/-- The number of days before a year, counted from year one. -/
def daysBeforeYear (year : Nat) : Nat :=
  let y := year - 1
  y * 365 + y / 4 - y / 100 + y / 400

/-- The number of days of a year before a month. -/
def daysBeforeMonth (year : Nat) : Nat → Nat
  | 0 | 1 => 0
  | m + 2 => daysBeforeMonth year (m + 1) + monthLength year (m + 1)

/-- The number of a day, the first day of year one being day one. -/
def dayNumber (year month day : Nat) : Nat :=
  daysBeforeYear year + daysBeforeMonth year month + day

/-- The month and day of the day `left` days after the first of `month`; a year has no more months
than `fuel`. -/
def monthDay (year : Nat) : Nat → Nat → Nat → Nat × Nat
  | 0, month, left => (month, left + 1)
  | fuel + 1, month, left =>
    if left < monthLength year month then (month, left + 1)
    else monthDay year fuel (month + 1) (left - monthLength year month)

/-- The date of a day number near the year `guess`. -/
def dateOfDay (guess number : Nat) : Nat × Nat × Nat :=
  let year :=
    if number ≤ daysBeforeYear guess then guess - 1
    else if daysBeforeYear (guess + 1) < number then guess + 1 else guess
  let (month, day) := monthDay year 11 1 (number - daysBeforeYear year - 1)
  (year, month, day)

/-- The day number of the Monday of the first week of a year: the week that holds its first
Thursday. -/
def firstMonday (year : Nat) : Nat :=
  let first := dayNumber year 1 1
  let weekday := (first + 6) % 7
  if weekday > 3 then first + 7 - weekday else first - weekday

/-- The number of weeks of a year. -/
def weeksIn (year : Nat) : Nat := (firstMonday (year + 1) - firstMonday year) / 7

/-- The date of a day of a week. The year before year one counts 52 weeks, whose days are no dates
of the calendar; they stand in a month zero. -/
def dateOfWeek? (year week day : Nat) : Option (Nat × Nat × Nat) :=
  let weeks := if year = 0 then 52 else weeksIn year
  if week < 1 || weeks < week || day < 1 || 7 < day then none
  else if year = 0 then some (1, 0, 1)
  else some (dateOfDay year (firstMonday year + (week - 1) * 7 + (day - 1)))

/-! ## Reading -/

/-- Why a text is no timestamp. -/
inductive ReadError
  | malformed (text : String)
  | year (year : Nat)
  | month
  | day
  | hour
  | minute
  | second
  | offset (micros : Int)
  deriving DecidableEq, Repr

/-- Exactly `n` ASCII digits and what follows them. -/
def digits? (n : Nat) (s : List Char) : Option (Nat × List Char) :=
  let ds := s.take n
  if ds.length = n && ds.all isAsciiDigit then
    some (Integer.ofDigits (ds.map fun c => c.toNat - 48), s.drop n)
  else none

/-- Where the date ends and one separating character follows. -/
def dateLength? (s : List Char) : Option Nat :=
  if s.length = 7 then some 7
  else if s[4]? = some '-' then
    if s[5]? = some 'W' then
      if s[8]? = some '-' then
        if s.length = 9 then none
        else if (s[10]?).any isAsciiDigit then some 8 else some 10
      else some 8
    else some 10
  else if s[4]? = some 'W' then
    let stop := 7 + ((s.drop 7).takeWhile isAsciiDigit).length
    if stop < 9 then some stop else if stop % 2 = 0 then some 7 else some 8
  else some 8

/-- Reads a date. -/
def readDate (s : List Char) : Option (Nat × Nat × Nat) := do
  let (year, rest) ← digits? 4 s
  let dashed := rest.head? = some '-'
  let rest := if dashed then rest.drop 1 else rest
  if rest.head? = some 'W' then
    let (week, rest) ← digits? 2 (rest.drop 1)
    if rest.isEmpty then dateOfWeek? year week 1
    else
      if (rest.head? = some '-') != dashed then none
      let (day, rest) ← digits? 1 (if dashed then rest.drop 1 else rest)
      if rest.isEmpty then dateOfWeek? year week day else none
  else
    let (month, rest) ← digits? 2 rest
    if (rest.head? = some '-') != dashed then none
    let (day, rest) ← digits? 2 (if dashed then rest.drop 1 else rest)
    if rest.isEmpty then some (year, month, day) else none

/-- Reads a fraction of a second in microseconds; digits past the sixth are dropped. The truth value
says whether anything follows. -/
def readFraction (s : List Char) : Option (Nat × Bool) :=
  let kept := s.take 6
  if kept.all isAsciiDigit then
    some (Integer.ofDigits (kept.map fun c => c.toNat - 48) * Nat.pow 10 (6 - kept.length),
      !((s.drop 6).dropWhile isAsciiDigit).isEmpty)
  else none

/-- What follows two digits of a clock: its end, perhaps with one stray character; a fraction; or
more digits. -/
inductive ClockRest
  | ended (stray : Bool)
  | fraction (digits : List Char)
  | more (digits : List Char)

/-- What follows two digits of a clock whose parts are separated by colons, or by nothing. -/
def clockRest? (colons : Bool) (s : List Char) : Option ClockRest :=
  match s with
  | [] => some (.ended false)
  | [c] => if c.toNat < 128 then some (.ended true) else none
  | c :: rest =>
    if colons && c = ':' then some (.more rest)
    else if c = '.' || c = ',' then some (.fraction rest)
    else if colons then none else some (.more s)

/-- Reads at most `count` parts of a clock and its fraction in microseconds. The truth value says
whether anything follows. -/
def readParts (colons : Bool) : Nat → List Char → Option (List Nat × Nat × Bool)
  | 0, s => (readFraction s).map fun (micro, stray) => ([], micro, stray)
  | count + 1, s => do
    let (part, rest) ← digits? 2 s
    match ← clockRest? colons rest with
    | .ended stray => return ([part], 0, stray)
    | .fraction ds =>
      let (micro, stray) ← readFraction ds
      return ([part], micro, stray)
    | .more ds =>
      let (parts, micro, stray) ← readParts colons count ds
      return (part :: parts, micro, stray)

/-- Reads the clock `HH`, `HH:MM` or `HH:MM:SS`, with or without colons; a fraction may end it and
counts as microseconds. The truth value says whether anything follows. -/
def readClock (s : List Char) : Option ((Nat × Nat × Nat × Nat) × Bool) := do
  let (parts, micro, stray) ← readParts (s[2]? = some ':') 3 s
  return ((parts.getD 0 0, parts.getD 1 0, parts.getD 2 0, micro), stray)

/-- A clock as microseconds. -/
def clockMicros (hour minute second micro : Nat) : Nat :=
  ((hour * 60 + minute) * 60 + second) * 1000000 + micro

/-- Reads the offset behind its sign; one below a second is none. -/
def readOffset (west : Bool) (s : List Char) : Option Int := do
  let ((hour, minute, second, micro), stray) ← readClock s
  if stray then none
  if hour = 0 && minute = 0 && second = 0 then return 0
  return Integer.signed west (clockMicros hour minute second micro)

/-- Reads a clock and an offset. Only an offset may follow what is not part of the clock. -/
def readTime (s : List Char) : Option ((Nat × Nat × Nat × Nat) × Option Int) := do
  let isMark (c : Char) : Bool := c = '+' || c = '-' || c = 'Z'
  let (clock, stray) ← readClock (s.takeWhile fun c => !isMark c)
  match s.dropWhile fun c => !isMark c with
  | [] => if stray then none else return (clock, none)
  | ['Z'] => return (clock, some 0)
  | mark :: rest =>
    if mark = 'Z' then none
    else return (clock, some (← readOffset (mark = '-') rest))

/-- A day in microseconds. -/
def dayMicros : Nat := 86400000000

/-- Checks the ranges of all fields. -/
def check (t : Timestamp) : Except ReadError Timestamp :=
  if (t.offset.any fun o => dayMicros ≤ o.natAbs) then .error (.offset (t.offset.getD 0))
  else if t.year < 1 || 9999 < t.year then .error (.year t.year)
  else if t.month < 1 || 12 < t.month then .error .month
  else if t.day < 1 || monthLength t.year t.month < t.day then .error .day
  else if 23 < t.hour then .error .hour
  else if 59 < t.minute then .error .minute
  else if 59 < t.second then .error .second
  else .ok t

/-- The date and the time of a text, before the ranges of the fields are checked. -/
def readFields (s : List Char) : Option Timestamp := do
  if s.length < 7 then none
  let n ← dateLength? s
  let (year, month, day) ← readDate (s.take n)
  match s.drop n with
  | [] => return { year, month, day }
  | [_] => none
  | _ :: time =>
    let ((hour, minute, second, micro), offset) ← readTime time
    return { year, month, day, hour, minute, second, micro, offset }

/-- Reads a timestamp. -/
def read (text : String) : Except ReadError Timestamp :=
  match readFields text.toList with
  | none => .error (.malformed text)
  | some t => t.check

/-! ## Writing -/

/-- Digits with zeros in front up to a width. -/
def padded (width n : Nat) : String :=
  let ds := toString n
  String.ofList (List.replicate (width - ds.length) '0') ++ ds

/-- An offset as hours and minutes, and seconds and fractions where it has them. -/
def offsetText (offset : Int) : String :=
  let micros := offset.natAbs
  let seconds := micros / 1000000
  let sign := if offset < 0 then "-" else "+"
  let base := s!"{sign}{padded 2 (seconds / 3600)}:{padded 2 (seconds / 60 % 60)}"
  if micros % 60000000 = 0 then base
  else
    let whole := s!"{base}:{padded 2 (seconds % 60)}"
    if micros % 1000000 = 0 then whole else s!"{whole}.{padded 6 (micros % 1000000)}"

/-- The extended form with a separator between date and time. -/
def textWith (separator : String) (t : Timestamp) : String :=
  let date := s!"{padded 4 t.year}-{padded 2 t.month}-{padded 2 t.day}"
  let time := s!"{padded 2 t.hour}:{padded 2 t.minute}:{padded 2 t.second}"
  let fraction := if t.micro = 0 then "" else s!".{padded 6 t.micro}"
  let zone := match t.offset with
    | none => ""
    | some o => offsetText o
  s!"{date}{separator}{time}{fraction}{zone}"

/-- The extended form. -/
def text (t : Timestamp) : String := t.textWith "T"

/-- A span of time as it is shown in messages: whole days, then seconds and microseconds that are
not negative. -/
def spanText (micros : Int) : String :=
  let days := micros / dayMicros
  let seconds := micros % dayMicros / 1000000
  let rest := micros % 1000000
  let part (name : String) (n : Int) : List String :=
    if n = 0 then [] else [s!"{name}={Integer.text n}"]
  let parts := part "days" days ++ part "seconds" seconds ++ part "microseconds" rest
  "datetime.timedelta(" ++ (if parts.isEmpty then "0" else ", ".intercalate parts) ++ ")"

/-- An offset as it is shown in messages. -/
def zoneText (offset : Int) : String :=
  if offset = 0 then "datetime.timezone.utc" else s!"datetime.timezone({spanText offset})"

/-- A timestamp field by field, as it is shown in messages. -/
def display (t : Timestamp) : String :=
  let fields := [t.year, t.month, t.day, t.hour, t.minute]
  let seconds :=
    if t.micro ≠ 0 then [t.second, t.micro] else if t.second ≠ 0 then [t.second] else []
  let zone := match t.offset with
    | none => []
    | some o => [s!"tzinfo={zoneText o}"]
  "datetime.datetime(" ++ ", ".intercalate ((fields ++ seconds).map toString ++ zone) ++ ")"

/-- The wording of a failure to read. -/
def ReadError.message : ReadError → String
  | .malformed text => s!"Invalid isoformat string: {quoted text}"
  | .year y => s!"year {y} is out of range"
  | .month => "month must be in 1..12"
  | .day => "day is out of range for month"
  | .hour => "hour must be in 0..23"
  | .minute => "minute must be in 0..59"
  | .second => "second must be in 0..59"
  | .offset o =>
    "offset must be a timedelta strictly between -timedelta(hours=24) and timedelta(hours=24), " ++
      "not " ++ spanText o ++ "."

/-! ## Instants -/

/-- Microseconds on the timestamp's own clock, from the start of the day before year one. -/
def localMicros (t : Timestamp) : Int :=
  dayNumber t.year t.month t.day * dayMicros + clockMicros t.hour t.minute t.second t.micro

/-- The same moment. A timestamp without an offset is never the same as one with an offset. -/
def same (t u : Timestamp) : Bool :=
  match t.offset, u.offset with
  | none, none => t.localMicros == u.localMicros
  | some o, some p => t.localMicros - o == u.localMicros - p
  | _, _ => false

/-- Microseconds since the start of 1970, where a missing offset counts as zero. -/
def unixMicros (t : Timestamp) : Int :=
  t.localMicros - t.offset.getD 0 - dayNumber 1970 1 1 * dayMicros

/-- Seconds since the start of 1970: the quotient is rounded to a double, whose fraction is cut
off toward zero. -/
def unixSeconds (t : Timestamp) : Int :=
  ((Binary64.ofRatio (t.unixMicros < 0) t.unixMicros.natAbs 1000000).truncate?).getD 0

end Timestamp

end FunctionManual
