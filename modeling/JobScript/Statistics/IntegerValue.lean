import JobScript.FixedPoint
import JobScript.Statistics.Collector

/-!
# Averaging Integer Samples

An integer-value tracker averages samples per interval. Counts stop at 32 bits and sums at 64
bits instead of wrapping around.
-/

namespace JobScript

/-- Number and sum of the samples of one interval. -/
structure Samples where
  count : Nat
  sum : Int
  deriving DecidableEq, Repr

namespace Samples

def greatestCount : Nat := 4294967295

/-- A sum, kept within 64 bits. -/
def clampSum (sum : Int) : Int :=
  max (-9223372036854775808) (min sum 9223372036854775807)

def none : Samples := ⟨0, 0⟩

/-- The samples of both, within the bounds. -/
def merge (a b : Samples) : Samples :=
  ⟨min (a.count + b.count) greatestCount, clampSum (a.sum + b.sum)⟩

def add (samples : Samples) (value : Int32) : Samples :=
  samples.merge ⟨1, value.toInt⟩

/-- Average of the samples; zero when there are none. -/
def average (samples : Samples) : Float :=
  if samples.count = 0 then 0
  else (Int64.ofInt samples.sum).toFloat / samples.count.toUInt64.toFloat

instance : Bucket Samples where
  empty := none
  liveValue _ samples := samples.average
  mode := .average

end Samples

structure IntegerValueTracker where
  intervals : Collector Samples
  least : Option Int32 := none
  greatest : Option Int32 := none
  deriving DecidableEq

namespace IntegerValueTracker

def ofContext (name : String) (context : CollectionContext) : IntegerValueTracker where
  intervals := Collector.ofContext name context

def start (t : IntegerValueTracker) (now : Instant) : IntegerValueTracker :=
  { t with intervals := t.intervals.start now }

def add (t : IntegerValueTracker) (value : Int32) (now : Instant) :
    IntegerValueTracker × List DataPoint :=
  if t.intervals.core.isRunning then
    let recorded := t.intervals.record now (·.add value)
    ({ intervals := recorded.1
       least := some (t.least.elim value (min · value))
       greatest := some (t.greatest.elim value (max · value)) }, recorded.2)
  else (t, [])

def stop (t : IntegerValueTracker) (now : Instant) : IntegerValueTracker × List DataPoint :=
  let stopped := t.intervals.stop now
  ({ t with intervals := stopped.1 }, stopped.2)

def totalCount (t : IntegerValueTracker) : Nat :=
  (t.intervals.buckets.map Samples.count).foldr (· + ·) 0

/-- Number and sum of all samples, within the bounds of one interval. -/
def overall (t : IntegerValueTracker) : Samples :=
  t.intervals.buckets.foldl Samples.merge .none

def average (t : IntegerValueTracker) : Float :=
  t.overall.average

def summary (t : IntegerValueTracker) : String :=
  s!"Total Count: {t.totalCount}; Avg Value: {FixedPoint.render t.average}"

end IntegerValueTracker

end JobScript
