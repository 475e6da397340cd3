import JobScript.Text.Ascii

/-!
# Value Types

Every value a job script can hold has one of twelve types. Scripts name a type by its keyword
(`int`, `string`, `popconnection`), in any ASCII case.

## Architecture

- `TrackerKind`: the four ways to collect statistics
- `ValueType`: the closed set of types, the tracker types indexed by their kind
- `ValueType.keyword` and `ValueType.ofKeyword?`: the script's spelling, written and read
-/

namespace JobScript

/-! ## Section 1: Tracker kinds -/

/-- What a statistic tracker measures. -/
inductive TrackerKind where
  /-- Occurrences per collection interval -/
  | incremental
  /-- Durations of operations per collection interval -/
  | time
  /-- Integer samples per collection interval -/
  | integerValue
  /-- Occurrences per named category, over the whole run -/
  | categorical
  deriving DecidableEq, Repr

namespace TrackerKind

def label : TrackerKind → String
  | .incremental => "Incremental Tracker"
  | .time => "Time Tracker"
  | .integerValue => "Integer Value Tracker"
  | .categorical => "Categorical Tracker"

end TrackerKind

/-! ## Section 2: The types -/

/-- The type of a script value. -/
inductive ValueType where
  | boolean
  /-- 32-bit signed integers with wrapping arithmetic -/
  | int
  /-- Text that may be unset -/
  | text
  /-- Ordered lists of text values with a read cursor -/
  | textList
  /-- Handles on statistics of one kind -/
  | tracker (kind : TrackerKind)
  /-- Mail-retrieval sessions -/
  | popConnection
  | mailMessage
  /-- The script's own facilities: arguments, messages, sleeping, random data -/
  | script
  /-- Pacing of a loop to a fixed duration per turn -/
  | rateLimiter
  deriving DecidableEq, Repr

namespace ValueType

/-- Every type, in the order in which types are listed to script authors. -/
def all : List ValueType :=
  [.boolean, .int, .text, .textList, .tracker .incremental, .tracker .time,
    .tracker .integerValue, .tracker .categorical, .popConnection, .mailMessage, .script,
    .rateLimiter]

/-- No type is missing from the list. -/
theorem mem_all (t : ValueType) : t ∈ all := by
  cases t with
  | tracker kind => cases kind <;> decide
  | _ => decide

/-- The word by which scripts name the type. -/
def keyword : ValueType → String
  | .boolean => "boolean"
  | .int => "int"
  | .text => "string"
  | .textList => "stringarray"
  | .tracker .incremental => "incrementaltracker"
  | .tracker .time => "timetracker"
  | .tracker .integerValue => "integervaluetracker"
  | .tracker .categorical => "categoricaltracker"
  | .popConnection => "popconnection"
  | .mailMessage => "mailmessage"
  | .script => "script"
  | .rateLimiter => "ratelimiter"

/-- The type a keyword names, whatever the ASCII case it is written in. -/
def ofKeyword? (word : String) : Option ValueType :=
  all.find? fun t => Text.equalIgnoringAsciiCase t.keyword word

def isTracker : ValueType → Bool
  | .tracker _ => true
  | _ => false

/-- Values of the type hold a resource outside the script, released when the script ends. -/
def ownsResource : ValueType → Bool
  | .popConnection => true
  | _ => false

end ValueType

end JobScript
