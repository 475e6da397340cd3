import JobScript.Failure
import JobScript.Text.Ascii
import JobScript.Timestamp.Format

/-!
# Timestamp Patterns

A pattern says how a point in time is written. A run of one letter is a field, such as `yyyy` for
the year; text between single quotes stands for itself; two single quotes are one quote; every
character that is neither a letter nor a quote stands for itself.

A pattern is compiled to a format text, by which the time is then written.

## Architecture

- `Field`: what a letter stands for, and the specifier that a run of it asks for
- `symbols`: the pattern with its quotes resolved, or the first fault in it
- `tokens`: runs of one letter taken together
- `compile`: the format text of a pattern
- `render`: the written time
-/

namespace JobScript.Timestamp

/-! ## Section 1: Fields -/

/-- What a pattern letter stands for. -/
inductive Field where
  | year | month | day | dayOfYear | weekdayName | weekdayNumber | halfOfDay | hour | hourOfHalf
  | minute | second | millisecond
  /-- Name of the time zone -/
  | zone
  /-- Offset from UTC, with a colon -/
  | offset
  /-- Offset from UTC, digits only -/
  | plainOffset
  deriving DecidableEq, Repr

/-- The field of a letter, if it has one. -/
def Field.ofLetter? : Char → Option Field
  | 'y' => some .year
  | 'M' => some .month
  | 'd' => some .day
  | 'D' => some .dayOfYear
  | 'E' => some .weekdayName
  | 'u' => some .weekdayNumber
  | 'a' => some .halfOfDay
  | 'H' => some .hour
  | 'h' => some .hourOfHalf
  | 'm' => some .minute
  | 's' => some .second
  | 'S' => some .millisecond
  | 'z' => some .zone
  | 'Z' => some .plainOffset
  | 'X' => some .offset
  | _ => none

/-- The specifier that a field asks for by the length of its run. Numbers are padded unless the run
is a single letter. -/
def Field.specifier (field : Field) (run : Nat) : Specifier :=
  let padded := run != 1
  match field with
  | .year => if run = 2 then .yearOfCentury else .year
  | .month => if run ≤ 2 then .month padded else if run = 3 then .shortMonthName else .monthName
  | .day => .day padded
  | .dayOfYear => .dayOfYear padded
  | .weekdayName => if run ≤ 3 then .shortWeekdayName else .weekdayName
  | .weekdayNumber => .weekdayNumber
  | .halfOfDay => .halfOfDay
  | .hour => .hour padded
  | .hourOfHalf => .hourOfHalf padded
  | .minute => .minute padded
  | .second => .second padded
  | .millisecond => .millisecond
  | .zone => .zone
  | .offset => .offset
  | .plainOffset => .plainOffset

/-! ## Section 2: Patterns -/

/-- What is wrong with a pattern. -/
inductive PatternFault where
  | unterminatedQuote
  | unsupportedLetter (letter : Char)
  deriving DecidableEq, Repr

def PatternFault.message : PatternFault → String
  | .unterminatedQuote => "unterminated quote in pattern"
  | .unsupportedLetter letter => "unsupported pattern letter '" ++ letter.toString ++ "'"

/-- A character of a pattern, its quotes resolved. -/
inductive Symbol where
  /-- A letter that stands for a field -/
  | letter (c : Char)
  /-- A character that stands for itself -/
  | literal (c : Char)
  deriving DecidableEq, Repr

def quote : Char := '\x27'

mutual

/-- Resolve the quotes of a pattern. The first fault, from left to right, is the one reported. -/
def symbols : List Char → Except PatternFault (List Symbol)
  | [] => .ok []
  | '\x27' :: '\x27' :: rest => do return .literal quote :: (← symbols rest)
  | '\x27' :: rest => quoted rest
  | c :: rest =>
    if Text.isAsciiLetter c then
      if (Field.ofLetter? c).isSome then do return .letter c :: (← symbols rest)
      else .error (.unsupportedLetter c)
    else do return .literal c :: (← symbols rest)

/-- Resolve the rest of a pattern from inside quotes. -/
def quoted : List Char → Except PatternFault (List Symbol)
  | [] => .error .unterminatedQuote
  | '\x27' :: '\x27' :: rest => do return .literal quote :: (← quoted rest)
  | '\x27' :: rest => symbols rest
  | c :: rest => do return .literal c :: (← quoted rest)

end

/-- A part of a written time. -/
inductive Token where
  /-- A field, by its letter and the length of its run -/
  | field (letter : Char) (run : Nat)
  /-- A character that stands for itself -/
  | literal (c : Char)
  deriving DecidableEq, Repr

/-- Take runs of one letter together. -/
def tokens : List Symbol → List Token
  | [] => []
  | .literal c :: rest => .literal c :: tokens rest
  | .letter c :: rest =>
    match tokens rest with
    | .field d run :: others =>
      -- The run behind this letter is complete: it grows by one, or a new run begins
      if c = d then .field c (run + 1) :: others else .field c 1 :: .field d run :: others
    | others => .field c 1 :: others

/-! ## Section 3: Writing a time -/

/-- A part of a written time, as a format text says it. -/
def Token.text : Token → String
  | .field letter run =>
    (Field.ofLetter? letter).elim "" fun field => (field.specifier run).text
  | .literal c => if c = '%' then "%%" else c.toString

/-- The format text of a pattern. -/
def compile (pattern : String) : Except PatternFault String := do
  let symbols ← symbols pattern.toList
  return String.join ((tokens symbols).map Token.text)

/-- The pattern of a timestamp for which none is given. -/
def defaultPattern : String := "yyyyMMddHHmmss"

/-- A time, written by a pattern. -/
def render (format : Formatter) (pattern : String) (t : LocalTime) : Except Cause String :=
  match compile pattern with
  | .error fault => .error (.invalidArgument "timestamp" fault.message)
  | .ok text =>
    match format text t with
    | some written => .ok written
    | none => .error (.invalidArgument "timestamp" ("cannot format \"" ++ pattern ++ "\""))

end JobScript.Timestamp
