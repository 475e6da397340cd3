import JobScript.FixedPoint
import JobScript.Statistics.Collector

/-!
# Timing Operations

A time tracker measures how long operations take. One timing can be open at a time; opening
another one forgets the first.
-/

namespace JobScript

/-- Completed timings of one interval. -/
structure Timings where
  count : Nat
  total : Span
  deriving DecidableEq, Repr

namespace Timings

def greatest : Nat := 4294967295

/-- One more timing; a full count stays. -/
def add (timings : Timings) (elapsed : Span) : Timings :=
  ⟨min (timings.count + 1) greatest, timings.total + elapsed⟩

/-- Average of so many timings of the given sum, in milliseconds. -/
def averageMilliseconds (total : Span) (count : Nat) : Float :=
  if count = 0 then 0 else total.toSeconds * 1000 / count.toUInt64.toFloat

instance : Bucket Timings where
  empty := ⟨0, 0⟩
  liveValue _ timings := averageMilliseconds timings.total timings.count
  mode := .average

end Timings

structure TimeTracker where
  intervals : Collector Timings
  timer : Option Instant := none
  least : Option Span := none
  greatest : Option Span := none
  last : Option Span := none
  deriving DecidableEq, Repr

namespace TimeTracker

def ofContext (name : String) (context : CollectionContext) : TimeTracker where
  intervals := Collector.ofContext name context

def start (t : TimeTracker) (now : Instant) : TimeTracker :=
  { t with intervals := t.intervals.start now }

/-- Open a timing, while the tracker is running. -/
def startTimer (t : TimeTracker) (now : Instant) : TimeTracker :=
  if t.intervals.core.isRunning then { t with timer := some now } else t

/-- Record an operation that took `elapsed` and ended at `now`. -/
def record (t : TimeTracker) (elapsed : Span) (now : Instant) : TimeTracker × List DataPoint :=
  if t.intervals.core.isRunning then
    let recorded := t.intervals.record now (·.add elapsed)
    ({ t with
        intervals := recorded.1
        last := some elapsed
        least := some (t.least.elim elapsed (min · elapsed))
        greatest := some (t.greatest.elim elapsed (max · elapsed)) }, recorded.2)
  else (t, [])

/-- Close the open timing; without one, nothing happens. -/
def stopTimer (t : TimeTracker) (now : Instant) : TimeTracker × List DataPoint :=
  match t.timer with
  | none => (t, [])
  -- Time that seems to run backwards counts as no time
  | some started => { t with timer := none }.record (now - started) now

/-- Stop collecting; an open timing is forgotten. -/
def stop (t : TimeTracker) (now : Instant) : TimeTracker × List DataPoint :=
  if t.intervals.core.isRunning then
    let stopped := t.intervals.stop now
    ({ t with timer := none, intervals := stopped.1 }, stopped.2)
  else (t, [])

def totalCount (t : TimeTracker) : Nat :=
  (t.intervals.buckets.map Timings.count).foldr (· + ·) 0

def totalDuration (t : TimeTracker) : Span :=
  (t.intervals.buckets.map Timings.total).foldr (· + ·) 0

/-- Average of the completed timings, in milliseconds; zero when there are none. -/
def averageMilliseconds (t : TimeTracker) : Float :=
  Timings.averageMilliseconds t.totalDuration t.totalCount

def summary (t : TimeTracker) : String :=
  s!"Total Count: {t.totalCount}; Avg Duration (ms): {FixedPoint.render t.averageMilliseconds}"

end TimeTracker

end JobScript
