import BuildStamp.Text.Writing

/-!
# Time — the calendar, points in time and how they are written

Dates are those of the proleptic Gregorian calendar, numbered by the days since 1970-01-01.  The two
conversions count days in cycles of 400 years, with each year taken to begin in March, so that a
leap day ends a year.  A build time is written as ISO 8601 local time without an offset,
`2026-03-07T09:05:01`, with six more digits if the clock shows a part of a second that is at least a
microsecond.

* `Date` — a year, a month and a day;
* `Date.isValid` — the dates that the calendar has;
* `Date.dayNumber` — the number of a date;
* `Date.ofDayNumber` — the date of a number;
* `Instant` — seconds since 1970 and nanoseconds, a leap second being a 60th second of a minute;
* `LocalTime` — what a clock that is ahead of UTC shows;
* `Instant.toLocal`, `Instant.shown?` — the local time of an instant, and whether the calendar of
  some 524 000 years has its date;
* `Instant.ofUnix?` — the instants that have a date in UTC;
* `LocalTime.yearText` — four digits, or a sign and at least four;
* `LocalTime.fractionText` — the point and the microseconds, or nothing;
* `LocalTime.text` — the whole build time;
* `Duration` — a span in whole nanoseconds;
* `Duration.describe` — its value in the largest unit that leaves a whole part, without trailing
  zeros after the point.
-/

namespace BuildStamp

/-- A year (also a negative one), a month from 1 and a day from 1. -/
structure Date where
  -- The year; the year before 1 is 0.
  year : Int
  month : Nat
  day : Nat
  deriving DecidableEq, Repr

namespace Date

/-! ## The dates of the calendar -/

/-- Every fourth year, without the centuries that 400 does not divide. -/
def isLeapYear (year : Int) : Bool :=
  year % 4 = 0 && (year % 100 ≠ 0 || year % 400 = 0)

def daysInMonth (year : Int) : Nat → Nat
  | 2 => if isLeapYear year then 29 else 28
  | 4 | 6 | 9 | 11 => 30
  | _ => 31

def isValid (d : Date) : Bool :=
  1 ≤ d.month && d.month ≤ 12 && 1 ≤ d.day && d.day ≤ daysInMonth d.year d.month

/-! ## Numbering -/

/-- The days of a cycle of 400 years. -/
def daysPerCycle : Int := 146097

/-- The number of 0000-03-01, negated. -/
def epochShift : Int := 719468

/-- The day within a March-based year on which a month begins, for months from 0 (March). -/
def monthStart (month : Nat) : Nat :=
  (153 * month + 2) / 5

def dayNumber (d : Date) : Int :=
  let year := if d.month ≤ 2 then d.year - 1 else d.year
  let month := if d.month ≤ 2 then d.month + 9 else d.month - 3
  let cycle := year / 400
  let yearOfCycle := (year % 400).toNat
  let dayOfYear := monthStart month + (d.day - 1)
  let dayOfCycle := 365 * yearOfCycle + yearOfCycle / 4 - yearOfCycle / 100 + dayOfYear
  cycle * daysPerCycle + dayOfCycle - epochShift

def ofDayNumber (number : Int) : Date :=
  let shifted := number + epochShift
  let cycle := shifted / daysPerCycle
  let dayOfCycle := (shifted % daysPerCycle).toNat
  let yearOfCycle :=
    (dayOfCycle - dayOfCycle / 1460 + dayOfCycle / 36524 - dayOfCycle / 146096) / 365
  let dayOfYear := dayOfCycle - (365 * yearOfCycle + yearOfCycle / 4 - yearOfCycle / 100)
  let month := (5 * dayOfYear + 2) / 153
  let year : Int := cycle * 400 + yearOfCycle
  { year := if 10 ≤ month then year + 1 else year
    month := if 10 ≤ month then month - 9 else month + 3
    day := dayOfYear - monthStart month + 1 }

end Date

/-! ## Instants -/

/-- A point in time.  A leap second has the number of the second before it and counts its
nanoseconds on from one second. -/
structure Instant where
  -- Whole seconds since 1970-01-01T00:00:00 UTC.
  seconds : Int
  -- Nanoseconds after that, in a leap second from 1000000000.
  nanoseconds : Nat
  -- Only the last second of a minute is followed by a leap second.
  leap_at_minute_end :
    nanoseconds < 1000000000 ∨ (nanoseconds < 2000000000 ∧ seconds % 60 = 59)
  deriving DecidableEq, Repr

def secondsPerDay : Int := 86400

/-! ## Local time -/

/-- What a clock shows. -/
structure LocalTime where
  date : Date
  hour : Nat
  minute : Nat
  -- The second of the minute, in a leap second the one before it.
  second : Nat
  -- The nanoseconds, in a leap second from 1000000000.
  nanosecond : Nat
  deriving DecidableEq, Repr

def firstYear : Int := -262143

def lastYear : Int := 262142

namespace LocalTime

def isSupported (t : LocalTime) : Bool :=
  firstYear ≤ t.date.year && t.date.year ≤ lastYear

end LocalTime

namespace Instant

/-- What a clock shows that is `offset` seconds ahead of UTC. -/
def toLocal (offset : Int) (i : Instant) : LocalTime :=
  let seconds := i.seconds + offset
  let ofDay := (seconds % secondsPerDay).toNat
  { date := Date.ofDayNumber (seconds / secondsPerDay)
    hour := ofDay / 3600
    minute := ofDay / 60 % 60
    second := ofDay % 60
    nanosecond := i.nanoseconds }

/-- The local time of an instant if the calendar has its date.  A run that asks for another one is
broken off. -/
def shown? (offset : Int) (i : Instant) : Option LocalTime :=
  if (i.toLocal offset).isSupported then some (i.toLocal offset) else none

/-- The instant of these seconds and nanoseconds, if there is one and the calendar has its date in
UTC.  Near the ends of the calendar its local date may be none. -/
def ofUnix? (seconds : Int) (nanoseconds : Nat) : Option Instant :=
  if h : nanoseconds < 1000000000 ∨ (nanoseconds < 2000000000 ∧ seconds % 60 = 59) then
    let i : Instant := ⟨seconds, nanoseconds, h⟩
    if (i.toLocal 0).isSupported then some i else none
  else none

end Instant

/-! ## The text of a build time -/

namespace LocalTime

/-- Years from 0 to 9999 have four digits, all others a sign and at least four. -/
def yearText (year : Int) : String :=
  if year < 0 then "-" ++ Text.zeroPadded 4 year.natAbs
  else if 9999 < year then "+" ++ Text.zeroPadded 4 year.natAbs
  else Text.zeroPadded 4 year.natAbs

/-- The microseconds.  They are left out if the clock's nanoseconds make none; in a leap second
these begin at a whole second, so there they are always written. -/
def fractionText (nanosecond : Nat) : String :=
  if nanosecond / 1000 = 0 then ""
  else "." ++ Text.zeroPadded 6 (nanosecond % 1000000000 / 1000)

/-- The text of a build time.  A leap second is the second 60. -/
def text (t : LocalTime) : String :=
  yearText t.date.year ++ "-" ++ Text.zeroPadded 2 t.date.month ++ "-" ++
    Text.zeroPadded 2 t.date.day ++ "T" ++ Text.zeroPadded 2 t.hour ++ ":" ++
    Text.zeroPadded 2 t.minute ++ ":" ++
    Text.zeroPadded 2 (t.second + t.nanosecond / 1000000000) ++ fractionText t.nanosecond

end LocalTime

/-! ## Spans of time -/

/-- A span of time. -/
structure Duration where
  nanoseconds : Nat
  deriving DecidableEq, Repr

namespace Duration

def ofSeconds (seconds : Nat) : Duration :=
  ⟨seconds * 1000000000⟩

def ofMilliseconds (milliseconds : Nat) : Duration :=
  ⟨milliseconds * 1000000⟩

/-- The digits after the point: `count / 10 ^ places` without trailing zeros, nothing if zero. -/
def fraction (places count : Nat) : String :=
  let digits := Text.padLeft places (Nat.toDigits 10 count)
  match (digits.reverse.dropWhile (· == '0')).reverse with
  | [] => ""
  | kept => "." ++ String.ofList kept

/-- The text of `count / 10 ^ places` of a unit. -/
def inUnit (count places : Nat) (unit : String) : String :=
  Text.decimal (count / 10 ^ places) ++ fraction places (count % 10 ^ places) ++ unit

def describe (d : Duration) : String :=
  let n := d.nanoseconds
  if 10 ^ 9 ≤ n then inUnit n 9 "s"
  else if 10 ^ 6 ≤ n then inUnit n 6 "ms"
  else if 10 ^ 3 ≤ n then inUnit n 3 "µs"
  else inUnit n 0 "ns"

end Duration
end BuildStamp
