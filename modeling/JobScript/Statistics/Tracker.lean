import JobScript.Statistics.Categorical
import JobScript.Statistics.Incremental
import JobScript.Statistics.IntegerValue
import JobScript.Statistics.Time
import JobScript.ValueType

/-!
# Statistics of Any Kind

The four kinds of tracker under one type, with the operations that do not depend on the kind:
naming, listening, starting, stopping, and the one-line summary.
-/

namespace JobScript

/-- Statistics of one of the four kinds. -/
inductive Statistics where
  | incremental (t : IncrementalTracker)
  | time (t : TimeTracker)
  | integerValue (t : IntegerValueTracker)
  | categorical (t : CategoricalTracker)
  deriving DecidableEq

namespace Statistics

def ofContext (kind : TrackerKind) (name : String) (context : CollectionContext) : Statistics :=
  match kind with
  | .incremental => .incremental (Collector.ofContext name context)
  | .time => .time (.ofContext name context)
  | .integerValue => .integerValue (.ofContext name context)
  | .categorical => .categorical (.ofContext name context)

/-- What the statistics measure. -/
def kind : Statistics → TrackerKind
  | .incremental _ => .incremental
  | .time _ => .time
  | .integerValue _ => .integerValue
  | .categorical _ => .categorical

/-- Name and progress of the statistics. -/
def core : Statistics → TrackerCore
  | .incremental t => t.core
  | .time t => t.intervals.core
  | .integerValue t => t.intervals.core
  | .categorical t => t.core

/-- Change name or progress. -/
def mapCore (f : TrackerCore → TrackerCore) : Statistics → Statistics
  | .incremental t => .incremental { t with core := f t.core }
  | .time t => .time { t with intervals := { t.intervals with core := f t.intervals.core } }
  | .integerValue t =>
    .integerValue { t with intervals := { t.intervals with core := f t.intervals.core } }
  | .categorical t => .categorical { t with core := f t.core }

/-- Report under another name from now on. -/
def rename (s : Statistics) (name : String) : Statistics :=
  s.mapCore fun core => { core with name }

/-- Send live reports to a job from now on. -/
def listen (s : Statistics) (job : String) : Statistics :=
  s.mapCore fun core => { core with listener := some job }

def isRunning (s : Statistics) : Bool :=
  s.core.isRunning

def isStopped (s : Statistics) : Bool :=
  s.core.isStopped

def start (s : Statistics) (now : Instant) : Statistics :=
  s.mapCore (·.start now)

/-- Stop collecting, with the reports that the last intervals cause. -/
def stop (s : Statistics) (now : Instant) : Statistics × List DataPoint :=
  match s with
  | .incremental t => let stopped := t.stop now; (.incremental stopped.1, stopped.2)
  | .time t => let stopped := t.stop now; (.time stopped.1, stopped.2)
  | .integerValue t => let stopped := t.stop now; (.integerValue stopped.1, stopped.2)
  | .categorical t => (.categorical (t.stop now), [])

def summary : Statistics → String
  | .incremental t => t.summary
  | .time t => t.summary
  | .integerValue t => t.summary
  | .categorical t => t.summary

end Statistics

/-! ## Data points

A data point of a kind other than the statistics' own is dropped.
-/

/-- One thing that happened, as a tracker of some kind counts it. -/
inductive Observation where
  | occurrence
  | timerStarted
  | timerStopped
  /-- An operation measured elsewhere -/
  | elapsed (span : Span)
  | sample (value : Int32)
  | inCategory (name : String)
  deriving DecidableEq

namespace Statistics

/-- Take an observation into the statistics. -/
def observe (s : Statistics) (o : Observation) (now : Instant) : Statistics × List DataPoint :=
  match s, o with
  | .incremental t, .occurrence => let r := t.increment now; (.incremental r.1, r.2)
  | .time t, .timerStarted => (.time (t.startTimer now), [])
  | .time t, .timerStopped => let r := t.stopTimer now; (.time r.1, r.2)
  | .time t, .elapsed span => let r := t.record span now; (.time r.1, r.2)
  | .integerValue t, .sample value => let r := t.add value now; (.integerValue r.1, r.2)
  | .categorical t, .inCategory name => (.categorical (t.increment name), [])
  | s, _ => (s, [])

end Statistics

end JobScript
