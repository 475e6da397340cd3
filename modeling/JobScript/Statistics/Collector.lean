import JobScript.Statistics.Core

/-!
# Collecting by Intervals

A collector puts accepted data points into the bucket of the current interval. Intervals are
closed late: only when the next point or the stop arrives are the intervals that ended since then
closed, all but the first of them empty.

## Architecture

- `Bucket`: what the points of one interval add up to, and how an interval is reported
- `Collector`: closed buckets, oldest first, and the open one
- `Collector.record`, `Collector.stop`: the two events that close intervals
-/

namespace JobScript

/-! ## Section 1: Buckets -/

/-- The contents of one interval. -/
class Bucket (β : Type) where
  /-- An interval without data points -/
  empty : β
  /-- The value reported for an interval of the given length in seconds -/
  liveValue : Float → β → Float
  /-- How the values of several threads combine -/
  mode : ReportMode

/-! ## Section 2: Collectors -/

/-- Buckets of a tracker's closed intervals and of the open one. -/
structure Collector (β : Type) where
  core : TrackerCore
  /-- Closed intervals, oldest first -/
  closed : List β
  current : β
  deriving DecidableEq, Repr

namespace Collector

variable {β : Type} [Bucket β]

/-- A collector that has not started. -/
def ofContext (name : String) (context : CollectionContext) : Collector β where
  core := TrackerCore.ofContext name context
  closed := []
  current := Bucket.empty

/-- All buckets, the open one last. -/
def buckets (c : Collector β) : List β :=
  c.closed ++ [c.current]

/-- Close the open interval and report it. -/
def close (c : Collector β) : Collector β × List DataPoint :=
  let reported :=
    c.core.report (Bucket.liveValue c.core.intervalSeconds c.current) (Bucket.mode β)
  ({ core := reported.1, closed := c.closed ++ [c.current], current := Bucket.empty }, reported.2)

/-- Close the open interval and the following ones, `count` in all. -/
def closeMany : (count : Nat) → Collector β → Collector β × List DataPoint
  | 0, c => (c, [])
  | count + 1, c =>
    let first := c.close
    let rest := closeMany count first.1
    (rest.1, first.2 ++ rest.2)

/-- Close every interval that has ended by `now`. -/
def roll (c : Collector β) (now : Instant) : Collector β × List DataPoint :=
  let crossed := c.core.clock.advance now
  -- Only the first of the closed intervals can have data points in it
  closeMany crossed.1 { c with core := { c.core with clock := crossed.2 } }

/-- Start the first interval, unless the tracker was started before. -/
def start (c : Collector β) (now : Instant) : Collector β :=
  { c with core := c.core.start now }

/-- Put a data point into the interval of `now`. A point that arrives while the tracker is not
running is dropped. -/
def record (c : Collector β) (now : Instant) (add : β → β) : Collector β × List DataPoint :=
  if c.core.isRunning then
    let rolled := c.roll now
    ({ rolled.1 with current := add rolled.1.current }, rolled.2)
  else (c, [])

/-- Close the last interval and stop. Stopping a tracker that is not running does nothing. -/
def stop (c : Collector β) (now : Instant) : Collector β × List DataPoint :=
  if c.core.isRunning then
    let rolled := c.roll now
    -- The interval in which the stop falls is closed early
    let closed := rolled.1.close
    let reported := (closed.1.core.finish now).report 0 .done
    ({ closed.1 with core := reported.1 }, rolled.2 ++ closed.2 ++ reported.2)
  else (c, [])

end Collector

end JobScript
