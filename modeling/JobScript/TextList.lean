import JobScript.Failure
import JobScript.Random.Source
import JobScript.Text.Casing

/-!
# Text Lists

An ordered list of texts, each possibly unset, with a read cursor and a random source of its own.
The first value is read with the cursor left on the second; each next value is the one under the
cursor, which then moves on. A cursor at the end stays there.

## Architecture

- `valueEquals`: when an element equals a needle
- `position?`: the first match at or after a start
- positional edits, which fail outside the list
- `firstValue`, `nextValue`, `randomValue`: reading
- `assign`: contents and cursor of another list; the random source stays
-/

namespace JobScript

/-- A list of texts with a read cursor. -/
structure TextList where
  values : List (Option String) := []
  /-- Position of the value that is read next -/
  cursor : Nat := 0
  source : Random.Source
  deriving DecidableEq

namespace TextList

/-! ## Section 1: Construction -/

/-- The list of given texts, unread. -/
def ofLines (lines : List String) (source : Random.Source) : TextList where
  values := lines.map some
  source := source

def length (l : TextList) : Nat :=
  l.values.length

/-- Take over another list's contents and cursor. -/
def assign (l other : TextList) : TextList :=
  { l with values := other.values, cursor := other.cursor }

/-! ## Section 2: Searching -/

/-- The value equals the needle. An unset value equals only an unset needle, and case is ignored
by comparing small letters. -/
def valueEquals (value needle : Option String) (ignoreCase : Bool) : Bool :=
  match value, needle, ignoreCase with
  -- Case is a matter of two texts that are set
  | some value, some needle, true => Text.toLower value == Text.toLower needle
  | value, needle, _ => value == needle

/-- Position of the first value at or after `start` that equals the needle. -/
def position? (l : TextList) (needle : Option String) (start : Nat) (ignoreCase : Bool) :
    Option Nat :=
  ((l.values.drop start).findIdx? fun value => valueEquals value needle ignoreCase).map
    (· + start)

/-- Some value equals the needle. -/
def contains (l : TextList) (needle : Option String) (ignoreCase : Bool) : Bool :=
  (l.position? needle 0 ignoreCase).isSome

/-! ## Section 3: Edits -/

def push (l : TextList) (value : Option String) : TextList :=
  { l with values := l.values ++ [value] }

/-- Remove the first value that equals the needle, and say whether there was one. -/
def removeFirst (l : TextList) (needle : Option String) (ignoreCase : Bool) : TextList × Bool :=
  match l.position? needle 0 ignoreCase with
  | some i => ({ l with values := l.values.eraseIdx i }, true)
  | none => (l, false)

/-- Remove every value and rewind the cursor. -/
def clear (l : TextList) : TextList :=
  { l with values := [], cursor := 0 }

/-- A script's index as a position below `bound`. -/
def checkedIndex (l : TextList) (operation : String) (index : Int32) (bound : Nat) :
    Except Cause Nat :=
  if 0 ≤ index.toInt ∧ index.toInt < bound then .ok index.toInt.toNat
  else .error (.outOfRange operation index.toInt l.length)

/-- Insert a value before an index; the length of the list as index appends. -/
def insert (l : TextList) (index : Int32) (value : Option String) : Except Cause TextList := do
  let i ← l.checkedIndex "insert" index (l.length + 1)
  return { l with values := l.values.insertIdx i value }

/-- Remove the value at an index and give it back. -/
def removeAt (l : TextList) (index : Int32) : Except Cause (TextList × Option String) := do
  let i ← l.checkedIndex "removevalueat" index l.length
  return ({ l with values := l.values.eraseIdx i }, l.values.getD i none)

def setAt (l : TextList) (index : Int32) (value : Option String) : Except Cause TextList := do
  let i ← l.checkedIndex "setvalueat" index l.length
  return { l with values := l.values.set i value }

def valueAt (l : TextList) (index : Int32) : Except Cause (Option String) := do
  let i ← l.checkedIndex "valueat" index l.length
  return l.values.getD i none

/-! ## Section 4: Reading -/

/-- Read the first value; an empty list reads as unset. -/
def firstValue (l : TextList) : TextList × Option String :=
  match l.values with
  | [] => ({ l with cursor := 0 }, none)
  | first :: _ => ({ l with cursor := 1 }, first)

/-- Read the value under the cursor and move on. Past the end, unset is read and nothing moves. -/
def nextValue (l : TextList) : TextList × Option String :=
  match l.values[l.cursor]? with
  | none => (l, none)
  | some value => ({ l with cursor := l.cursor + 1 }, value)

/-- A value chosen uniformly; an empty list reads as unset and draws nothing. -/
def randomValue (l : TextList) : TextList × Option String :=
  if l.values.isEmpty then (l, none)
  else
    let drawn := l.source.below64 l.length
    ({ l with source := drawn.2 }, l.values.getD drawn.1 none)

/-! ## Section 5: Display -/

def render (l : TextList) : String :=
  if l.values.isEmpty then "\x7b no values \x7d"
  else if l.length ≤ 5 then
    "\x7b " ++ ", ".intercalate (l.values.map fun value => "\"" ++ value.getD "null" ++ "\"") ++
      " \x7d"
  else "\x7b " ++ toString l.length ++ " values \x7d"

end TextList

end JobScript
