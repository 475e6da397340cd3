import JobScript.Timestamp.Calendar

/-!
# Format Texts

A format text says how a time is written. A percent sign begins a specifier, such as `%Y` for the
year; two percent signs are one; every other character stands for itself. Numbers are written with
leading zeros, unless the specifier has a dash behind its percent sign.

## Architecture

- `Specifier`: what a format text can ask for, how it is spelled, and how it is written
- `readFormat`: the items of a format text, unless it has a specifier that there is not
- `strftime`: a time, written by a format text
-/

namespace JobScript.Timestamp

/-! ## Section 1: Specifiers -/

/-- A part of a time that a format text can ask for, and its form. -/
inductive Specifier where
  | year | yearOfCentury
  | month (padded : Bool) | monthName | shortMonthName
  | day (padded : Bool) | dayOfYear (padded : Bool)
  | weekdayName | shortWeekdayName
  /-- From 1 for Monday -/
  | weekdayNumber
  | halfOfDay
  | hour (padded : Bool) | hourOfHalf (padded : Bool)
  | minute (padded : Bool) | second (padded : Bool) | millisecond
  /-- Name of the time zone, for which its offset stands -/
  | zone
  /-- Offset from UTC, with a colon -/
  | offset
  /-- Offset from UTC, digits only -/
  | plainOffset
  deriving DecidableEq, Repr

/-- What stands between the percent sign of a number and its letter. -/
def padding (padded : Bool) : String :=
  if padded then "" else "-"

/-- The specifier as it is spelled behind its percent sign. -/
def Specifier.letters : Specifier → String
  | .year => "Y"
  | .yearOfCentury => "y"
  | .month padded => padding padded ++ "m"
  | .monthName => "B"
  | .shortMonthName => "b"
  | .day padded => padding padded ++ "d"
  | .dayOfYear padded => padding padded ++ "j"
  | .weekdayName => "A"
  | .shortWeekdayName => "a"
  | .weekdayNumber => "u"
  | .halfOfDay => "p"
  | .hour padded => padding padded ++ "H"
  | .hourOfHalf padded => padding padded ++ "I"
  | .minute padded => padding padded ++ "M"
  | .second padded => padding padded ++ "S"
  | .millisecond => "3f"
  | .zone => "Z"
  | .offset => ":z"
  | .plainOffset => "z"

/-- The specifier as it stands in a format text. -/
def Specifier.text (s : Specifier) : String :=
  "%" ++ s.letters

/-! ## Section 2: Written parts of a time -/

/-- A number with leading zeros up to a width. -/
def zeroPadded (width n : Nat) : String :=
  let digits := Nat.toDigits 10 n
  String.ofList (List.replicate (width - digits.length) '0' ++ digits)

/-- A number, with leading zeros up to a width if it is to be padded. -/
def number (padded : Bool) (width n : Nat) : String :=
  if padded then zeroPadded width n else toString n

/-- A year: at least four digits, and a sign outside the years 0 to 9999. -/
def yearText (year : Int) : String :=
  if year < 0 then "-" ++ zeroPadded 4 year.natAbs
  else if 9999 < year then "+" ++ toString year.natAbs
  else zeroPadded 4 year.natAbs

def monthNames : List String :=
  ["January", "February", "March", "April", "May", "June", "July", "August", "September",
    "October", "November", "December"]

/-- Names of the days of the week, from Monday. -/
def weekdayNames : List String :=
  ["Monday", "Tuesday", "Wednesday", "Thursday", "Friday", "Saturday", "Sunday"]

def shortName (name : String) : String :=
  String.ofList (name.toList.take 3)

/-- An offset from UTC: sign, hours, a separator, minutes. -/
def offsetText (separator : String) (offset : Int) : String :=
  (if offset < 0 then "-" else "+") ++ zeroPadded 2 (offset.natAbs / 60) ++ separator ++
    zeroPadded 2 (offset.natAbs % 60)

/-- Hour on a clock face. -/
def clockHour (hour : Nat) : Nat :=
  if hour % 12 = 0 then 12 else hour % 12

/-- What a specifier stands for at a time. -/
def Specifier.render (t : LocalTime) : Specifier → String
  | .year => yearText t.date.year
  | .yearOfCentury => zeroPadded 2 (t.date.year % 100).toNat
  | .month padded => number padded 2 t.date.month
  | .monthName => monthNames.getD (t.date.month - 1) ""
  | .shortMonthName => shortName (monthNames.getD (t.date.month - 1) "")
  | .day padded => number padded 2 t.date.day
  | .dayOfYear padded => number padded 3 t.date.dayOfYear
  | .weekdayName => weekdayNames.getD t.weekday ""
  | .shortWeekdayName => shortName (weekdayNames.getD t.weekday "")
  | .weekdayNumber => toString (t.weekday + 1)
  | .halfOfDay => if t.hour < 12 then "AM" else "PM"
  | .hour padded => number padded 2 t.hour
  | .hourOfHalf padded => number padded 2 (clockHour t.hour)
  | .minute padded => number padded 2 t.minute
  | .second padded => number padded 2 t.second
  | .millisecond => zeroPadded 3 t.millisecond
  | .zone | .offset => offsetText ":" t.offset
  | .plainOffset => offsetText "" t.offset

/-! ## Section 3: Reading a format text -/

/-- The specifier that a single letter behind a percent sign spells. -/
def Specifier.ofLetter? : Char → Option Specifier
  | 'Y' => some .year
  | 'y' => some .yearOfCentury
  | 'm' => some (.month true)
  | 'B' => some .monthName
  | 'b' => some .shortMonthName
  | 'd' => some (.day true)
  | 'j' => some (.dayOfYear true)
  | 'A' => some .weekdayName
  | 'a' => some .shortWeekdayName
  | 'u' => some .weekdayNumber
  | 'p' => some .halfOfDay
  | 'H' => some (.hour true)
  | 'I' => some (.hourOfHalf true)
  | 'M' => some (.minute true)
  | 'S' => some (.second true)
  | 'Z' => some .zone
  | 'z' => some .plainOffset
  | _ => none

/-- The same specifier without leading zeros, for those that write numbers. -/
def Specifier.unpadded? : Specifier → Option Specifier
  | .month _ => some (.month false)
  | .day _ => some (.day false)
  | .dayOfYear _ => some (.dayOfYear false)
  | .hour _ => some (.hour false)
  | .hourOfHalf _ => some (.hourOfHalf false)
  | .minute _ => some (.minute false)
  | .second _ => some (.second false)
  | _ => none

/-- A piece of a format text. -/
inductive Item where
  | specifier (s : Specifier)
  | literal (c : Char)
  deriving DecidableEq, Repr

/-- The items of a format text; none when a percent sign begins no specifier. -/
def readFormat : List Char → Option (List Item)
  | [] => some []
  | '%' :: '%' :: rest => (readFormat rest).map (.literal '%' :: ·)
  | '%' :: '-' :: c :: rest =>
    match (Specifier.ofLetter? c).bind Specifier.unpadded? with
    | some s => (readFormat rest).map (.specifier s :: ·)
    | none => none
  | '%' :: '3' :: 'f' :: rest => (readFormat rest).map (.specifier .millisecond :: ·)
  | '%' :: ':' :: 'z' :: rest => (readFormat rest).map (.specifier .offset :: ·)
  | '%' :: c :: rest =>
    match Specifier.ofLetter? c with
    | some s => (readFormat rest).map (.specifier s :: ·)
    | none => none
  | ['%'] => none
  | c :: rest => (readFormat rest).map (.literal c :: ·)

def Item.render (t : LocalTime) : Item → String
  | .specifier s => s.render t
  | .literal c => c.toString

/-- Writes a time by a format text, unless that has a specifier that there is not. -/
abbrev Formatter := String → LocalTime → Option String

/-- A time, written by a format text item by item. -/
def strftime : Formatter := fun text t =>
  (readFormat text.toList).map fun items => String.join (items.map (Item.render t))

example : readFormat "%-m%%%3f".toList =
    some [.specifier (.month false), .literal '%', .specifier .millisecond] := by
  decide

end JobScript.Timestamp
