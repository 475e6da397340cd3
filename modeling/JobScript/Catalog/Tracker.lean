import JobScript.Catalog.Signature

/-!
# Operations on Trackers

Every kind of tracker is named, started and stopped alike; the kinds differ in the operations that
record a data point.
-/

namespace JobScript

open ValueType

inductive TrackerOperation where
  | addValue
  | increment
  /-- Count one occurrence in a category -/
  | incrementCategory
  | setDisplayName
  | startTimer
  | startTracker
  | stopTimer
  | stopTracker
  deriving DecidableEq, Repr

namespace TrackerOperation

def signature : TrackerOperation → Signature
  | .addValue => .acting "addvalue" [int]
  | .increment => .acting "increment" []
  | .incrementCategory => .acting "increment" [text]
  | .setDisplayName => .acting "setdisplayname" [text]
  | .startTimer => .acting "starttimer" []
  | .startTracker => .acting "starttracker" []
  | .stopTimer => .acting "stoptimer" []
  | .stopTracker => .acting "stoptracker" []

/-- The operations of one kind of tracker, in index order. -/
def catalog : TrackerKind → List TrackerOperation
  | .incremental => [.increment, .setDisplayName, .startTracker, .stopTracker]
  | .time => [.setDisplayName, .startTimer, .startTracker, .stopTimer, .stopTracker]
  | .integerValue => [.addValue, .setDisplayName, .startTracker, .stopTracker]
  | .categorical => [.incrementCategory, .setDisplayName, .startTracker, .stopTracker]

end TrackerOperation

end JobScript
