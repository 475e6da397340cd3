import JobScript.FixedPoint
import JobScript.Statistics.Collector

/-!
# Counting Occurrences

An incremental tracker counts how often something happens in each interval, and reports rates per
second.
-/

namespace JobScript

/-- Occurrences within one interval. -/
structure Occurrences where
  count : Nat
  deriving DecidableEq, Repr

namespace Occurrences

def greatest : Nat := 4294967295

/-- One more occurrence; a full count stays. -/
def increment (o : Occurrences) : Occurrences :=
  ⟨min (o.count + 1) greatest⟩

instance : Bucket Occurrences where
  empty := ⟨0⟩
  liveValue seconds o := o.count.toUInt64.toFloat / seconds
  mode := .add

end Occurrences

abbrev IncrementalTracker := Collector Occurrences

namespace IncrementalTracker

def increment (t : IncrementalTracker) (now : Instant) : IncrementalTracker × List DataPoint :=
  t.record now Occurrences.increment

/-- Counts of the closed intervals, oldest first. -/
def intervalCounts (t : IncrementalTracker) : List Nat :=
  t.closed.map Occurrences.count

/-- Occurrences in the closed intervals and the open one. -/
def totalCount (t : IncrementalTracker) : Nat :=
  (t.buckets.map Occurrences.count).foldr (· + ·) 0

/-- The greatest count of a closed interval. -/
def maxPerInterval? (t : IncrementalTracker) : Option Nat :=
  t.intervalCounts.max?

/-- The least count of a closed interval. -/
def minPerInterval? (t : IncrementalTracker) : Option Nat :=
  t.intervalCounts.min?

/-- Total count over the number of closed intervals; zero when none is closed. -/
def averagePerInterval (t : IncrementalTracker) : Float :=
  if t.closed.isEmpty then 0
  else t.totalCount.toUInt64.toFloat / t.closed.length.toUInt64.toFloat

/-- Total count over the seconds from start to stop; zero when no time has passed. -/
def averagePerSecond (t : IncrementalTracker) : Float :=
  let seconds := t.core.duration.toSeconds
  if seconds ≤ 0 then 0 else t.totalCount.toUInt64.toFloat / seconds

def summary (t : IncrementalTracker) : String :=
  s!"Total Count: {t.totalCount}; Avg/Second: {FixedPoint.render t.averagePerSecond}; " ++
    s!"Avg/Interval: {FixedPoint.render t.averagePerInterval}"

end IncrementalTracker

end JobScript
