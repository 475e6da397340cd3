import JobScript.Statistics.Tracker

/-!
# Tracker Handles

A tracker variable is a handle: it knows its names, whether it is collecting, and which statistics
of the run it feeds. The statistics are created when the tracker is first started. Handles share
statistics by number, so after an assignment both variables feed one set of them.

## Architecture

- `TrackerId`: the number of a run's statistics
- `TrackerHandle`: the variable's side
- `TrackerStage`: where a tracker stands, read off the handle and its statistics
-/

namespace JobScript

/-- The number of one set of statistics, in order of creation within a run. -/
abbrev TrackerId := Nat

/-- A tracker variable's side of its statistics. -/
structure TrackerHandle where
  kind : TrackerKind
  /-- Name under which the variable was declared -/
  variableName : Option String := none
  /-- Name chosen by the script -/
  chosenName : Option String := none
  /-- Data points are passed on -/
  collecting : Bool := false
  /-- Statistics fed by the handle, once there are any -/
  statistics : Option TrackerId := none
  deriving DecidableEq

/-- Where a tracker stands. A tracker moves through the stages in this order. -/
inductive TrackerStage where
  /-- No statistics and no chosen name -/
  | idle
  /-- Not collecting yet -/
  | armed
  | collecting
  | stopped
  deriving DecidableEq, Repr

/-- Position of a stage in the order of stages. -/
def TrackerStage.rank : TrackerStage → Nat
  | .idle => 0
  | .armed => 1
  | .collecting => 2
  | .stopped => 3

namespace TrackerHandle

/-- Name used when neither the script nor a declaration gives one. -/
def unnamed : String := "unnamed"

/-- The name statistics are reported under: the chosen one, else the variable's. -/
def displayName (h : TrackerHandle) : Option String :=
  h.chosenName <|> h.variableName

/-- Feed another handle's statistics in its state. The variable's own name stays. -/
def assign (h other : TrackerHandle) : TrackerHandle :=
  { h with
    collecting := other.collecting
    chosenName := other.chosenName
    statistics := other.statistics }

/-- Where the tracker stands, given the statistics that the handle feeds. -/
def stage (h : TrackerHandle) (statistics : Option Statistics) : TrackerStage :=
  match statistics with
  | none => if h.chosenName.isSome then .armed else .idle
  | some s =>
    if s.isStopped then .stopped
    else if h.collecting && s.isRunning then .collecting
    else .armed

def render (h : TrackerHandle) : String :=
  h.kind.label ++ " " ++ h.displayName.getD "null"

end TrackerHandle

end JobScript
