import JobScript.Statistics.Context
import JobScript.Statistics.Interval
import JobScript.Statistics.Live

/-!
# What All Trackers Share

Every tracker has a name, a collection context, an interval clock, a phase and, when its job
listens, the job to report to. The phase moves forward only: a tracker that has stopped never
starts again.
-/

namespace JobScript

/-- How far a tracker has come. -/
inductive TrackerPhase where
  | notStarted
  | running
  | stopped
  deriving DecidableEq, Repr

/-- Identity and progress of a tracker. -/
structure TrackerCore where
  name : String
  context : CollectionContext
  clock : IntervalClock
  phase : TrackerPhase := .notStarted
  stoppedAt : Option Instant := none
  /-- Job that receives live reports -/
  listener : Option String := none
  /-- Number of the next report -/
  nextInterval : Nat := 0
  deriving DecidableEq, Repr

namespace TrackerCore

/-- The core of a tracker that has not started. -/
def ofContext (name : String) (context : CollectionContext) : TrackerCore where
  name := name
  context := context
  clock := IntervalClock.ofLength context.interval

def isRunning (core : TrackerCore) : Bool :=
  core.phase = .running

def isStopped (core : TrackerCore) : Bool :=
  core.phase = .stopped

/-- Start, unless the tracker was started before. -/
def start (core : TrackerCore) (now : Instant) : TrackerCore :=
  match core.phase with
  | .notStarted => { core with phase := .running, clock := core.clock.start now }
  | .running | .stopped => core

/-- Stop, if the tracker is running. -/
def finish (core : TrackerCore) (now : Instant) : TrackerCore :=
  match core.phase with
  | .running => { core with phase := .stopped, stoppedAt := some now }
  | .notStarted | .stopped => core

/-- Length of an interval in seconds. -/
def intervalSeconds (core : TrackerCore) : Float :=
  core.clock.length.toSeconds

/-- Time from start to stop; zero until the tracker has stopped. -/
def duration (core : TrackerCore) : Span :=
  match core.clock.startedAt, core.stoppedAt with
  | some start, some stop => stop - start
  | _, _ => 0

/-- Report a value under the next number. The number is used up whether anyone listens or not. -/
def report (core : TrackerCore) (value : Float) (mode : ReportMode) :
    TrackerCore × List DataPoint :=
  ({ core with nextInterval := core.nextInterval + 1 },
    core.listener.toList.map fun job =>
      { job
        tracker := core.name
        client := core.context.client
        thread := core.context.thread
        interval := core.nextInterval
        value
        mode })

end TrackerCore

end JobScript
