/-!
# Live Reports

A job that watches its statistics while it runs receives one data point for every collection
interval that closes, and a last one when a tracker stops.
-/

namespace JobScript

/-- How values of several threads are to be combined. -/
inductive ReportMode where
  /-- Values are summed: they are rates -/
  | add
  /-- Values are averaged: they are durations or samples -/
  | average
  /-- The tracker has stopped; nothing follows -/
  | done
  deriving DecidableEq, Repr

/-- What one tracker reports about one interval. -/
structure DataPoint where
  /-- Job to which the point is reported -/
  job : String
  tracker : String
  client : String
  thread : String
  /-- Number of the interval since the tracker started, from zero -/
  interval : Nat
  value : Float
  mode : ReportMode
  deriving Repr

end JobScript
