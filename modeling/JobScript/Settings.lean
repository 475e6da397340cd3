import JobScript.Random.Source
import JobScript.Statistics.Context
import JobScript.Text.Blank
import JobScript.Text.Casing
import JobScript.Text.Decimal

/-!
# Settings of the Engine

Settings come from defaults, from environment variables, and from the job that runs the script. A
variable that does not read as a number leaves its setting as it is.
-/

namespace JobScript

structure Settings where
  /-- Collection interval of trackers, in seconds -/
  collectionInterval : Nat := CollectionContext.defaultIntervalSeconds
  /-- Longest wait for a mail server, in milliseconds; none waits for ever -/
  popTimeout : Option Nat := some 30000
  /-- Seed of the run's random sources -/
  seed : Option UInt64 := none
  /-- Script arguments by their names in small letters, in order of first mention -/
  arguments : List (String × String) := []
  /-- Trace every call to the job -/
  traceCalls : Bool := false
  deriving DecidableEq

namespace Settings

def intervalKey : String := "VOLLEY_COLLECTION_INTERVAL"

def timeoutKey : String := "VOLLEY_POP_TIMEOUT_MS"

def seedKey : String := "VOLLEY_SEED"

/-- The number that a variable of the environment holds, blanks around it aside. -/
def numberAt? (lookup : String → Option String) (key : String) : Option Nat :=
  (lookup key).bind fun text => Text.Decimal.unsigned64? (Text.trimBlanks text.toList)

/-- The greatest interval that a setting can hold. -/
def greatestInterval : Nat := 4294967295

/-- The defaults, changed by the variables of an environment. A timeout of zero waits for ever. -/
def ofEnvironment (lookup : String → Option String) : Settings :=
  let defaults : Settings := {}
  { defaults with
    collectionInterval :=
      match numberAt? lookup intervalKey with
      | some seconds => if seconds ≤ greatestInterval then seconds else defaults.collectionInterval
      | none => defaults.collectionInterval
    popTimeout :=
      match numberAt? lookup timeoutKey with
      -- No time at all would never do: it stands for no limit
      | some milliseconds => if 0 < milliseconds then some milliseconds else none
      | none => defaults.popTimeout
    seed := (numberAt? lookup seedKey).map UInt64.ofNat }

/-- Put a value under a name, in place of an earlier one. -/
def putArgument (name value : String) : List (String × String) → List (String × String)
  | [] => [(name, value)]
  | entry :: rest =>
    if entry.1 = name then (name, value) :: rest else entry :: putArgument name value rest

/-- Add a script argument. Its name counts without regard to case. -/
def withArgument (s : Settings) (name value : String) : Settings :=
  { s with arguments := putArgument (Text.toLower name) value s.arguments }

/-- The script argument of a name in small letters. -/
def argument? (s : Settings) (name : String) : Option String :=
  s.arguments.lookup name

/-- Seed of the random sources of a run. A run that was given none need not be repeatable: any
seed will do. -/
def runSeed (s : Settings) : UInt64 :=
  s.seed.getD 0

end Settings

end JobScript
