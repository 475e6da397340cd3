/-!
# Calendar Time

Local dates and times of the Gregorian calendar, from milliseconds since the beginning of 1970 and
an offset from UTC.

## Architecture

- `dateOfDays`: year, month and day of a day number, counted in eras of 400 years
- `LocalTime`: a point in time as clocks and calendars show it
- `LocalTime.ofUnix`: the local time of an instant
-/

namespace JobScript.Timestamp

/-! ## Section 1: Dates -/

structure Date where
  year : Int
  /-- From 1 to 12 -/
  month : Nat
  day : Nat
  deriving DecidableEq, Repr

/-- Days in an era of 400 years. -/
def daysPerEra : Int := 146097

/-- Days from the beginning of March of year 0 to the beginning of 1970. -/
def daysToEpoch : Int := 719468

/-- The date of a day, counted from the beginning of 1970. Years are taken to begin in March, so
that a leap day is the last of its year. -/
def dateOfDays (days : Int) : Date :=
  let shifted := days + daysToEpoch
  let era := shifted / daysPerEra
  let dayOfEra := (shifted % daysPerEra).toNat
  -- Leap days that have gone by are taken off, so that every year has 365 days
  let yearOfEra := (dayOfEra - dayOfEra / 1460 + dayOfEra / 36524 - dayOfEra / 146096) / 365
  let dayOfYear := dayOfEra - (365 * yearOfEra + yearOfEra / 4 - yearOfEra / 100)
  -- From March on, five months in a row always have 153 days
  let fromMarch := (5 * dayOfYear + 2) / 153
  let month := if fromMarch < 10 then fromMarch + 3 else fromMarch - 9
  -- January and February belong to the year after the one whose March came before them
  { year := era * 400 + yearOfEra + (if month ≤ 2 then 1 else 0)
    month
    day := dayOfYear - (153 * fromMarch + 2) / 5 + 1 }

/-- A leap year has a day more: every fourth year, but of the full centuries only every fourth. -/
def isLeap (year : Int) : Bool :=
  year % 4 == 0 && (year % 100 != 0 || year % 400 == 0)

/-- Days of a year before a month. -/
def daysBefore (year : Int) (month : Nat) : Nat :=
  ([0, 31, 59, 90, 120, 151, 181, 212, 243, 273, 304, 334].getD (month - 1) 0) +
    if isLeap year && 2 < month then 1 else 0

/-- Number of a date's day within its year, from 1. -/
def Date.dayOfYear (d : Date) : Nat :=
  daysBefore d.year d.month + d.day

/-! ## Section 2: Local time -/

structure LocalTime where
  date : Date
  /-- Day of the week, 0 for Monday -/
  weekday : Nat
  hour : Nat
  minute : Nat
  second : Nat
  millisecond : Nat
  /-- Offset from UTC in minutes -/
  offset : Int
  deriving DecidableEq, Repr

/-- Milliseconds of a day. -/
def millisecondsPerDay : Int := 86400000

/-- The local time at an instant, given in milliseconds since the beginning of 1970, at an offset
from UTC in minutes. The first of January 1970 was a Thursday. -/
def LocalTime.ofUnix (unixMilliseconds offset : Int) : LocalTime :=
  let shown := unixMilliseconds + offset * 60000
  -- Division rounds down, so that times before 1970 fall on the right day as well
  let days := shown / millisecondsPerDay
  let ofDay := (shown % millisecondsPerDay).toNat
  { date := dateOfDays days
    weekday := ((days + 3) % 7).toNat
    hour := ofDay / 3600000
    minute := ofDay / 60000 % 60
    second := ofDay / 1000 % 60
    millisecond := ofDay % 1000
    offset }

example : (dateOfDays 11016).dayOfYear = 60 := by decide
example : dateOfDays 11016 = ⟨2000, 2, 29⟩ := by decide
example : dateOfDays (-1) = ⟨1969, 12, 31⟩ := by decide

end JobScript.Timestamp
