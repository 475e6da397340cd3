import JobScript.Catalog.Tracker
import JobScript.Execution.Outcome

/-!
# Operations on Trackers, Carried Out

Statistics come into being when a tracker is first started, from the collection context that the
job has at that moment. Data points of a handle that is not collecting are dropped without error.
-/

namespace JobScript

namespace TrackerHandle

/-- New statistics for the handle. A job that listens hears from all kinds but the categorical
one, which is only summarised when the job ends. -/
def newStatistics (h : TrackerHandle) (job : Job) : Statistics :=
  let s := Statistics.ofContext h.kind (h.displayName.getD unnamed) job.collectionContext
  if job.listens && h.kind != .categorical then s.listen job.id else s

/-- The handle with statistics to feed, created if it has none. -/
def withStatistics (h : TrackerHandle) (job : Job) (w : World) :
    TrackerId × TrackerHandle × World :=
  match h.statistics with
  | some id => (id, h, w)
  | none =>
    let id := w.statistics.length
    (id, { h with statistics := some id },
      { w with statistics := w.statistics ++ [h.newStatistics job] })

/-- Start collecting. Statistics that were started before stay as they are; the handle collects if
they are running. -/
def start (h : TrackerHandle) (job : Job) (w : World) : TrackerHandle × World :=
  let (id, h, w) := h.withStatistics job w
  match w.statistics[id]? with
  | none => (h, w)
  | some s =>
    let started := s.start w.now
    -- Statistics that have stopped stay so, and then the handle does not collect
    ({ h with collecting := started.isRunning }, w.putStatistics id (started, []))

/-- Stop the statistics, for every handle that feeds them. -/
def stop (h : TrackerHandle) (w : World) : TrackerHandle × World :=
  ({ h with collecting := false }, h.statistics.elim w w.stopStatistics)

/-- Choose a name, or go back to the variable's. Statistics that exist are renamed only to a chosen
name. -/
def chooseName (h : TrackerHandle) (name : Option String) (w : World) : TrackerHandle × World :=
  ({ h with chosenName := name },
    match h.statistics, name with
    | some id, some name =>
      match w.statistics[id]? with
      | some s => w.putStatistics id (s.rename name, [])
      | none => w
    | _, _ => w)

/-- Pass an observation on to the statistics, while collecting. -/
def observe (h : TrackerHandle) (o : Observation) (w : World) : World :=
  if h.collecting then h.statistics.elim w (w.observe · o) else w

end TrackerHandle

namespace TrackerOperation

def run (op : TrackerOperation) (receiver : TrackerHandle) (arguments : List Value) (job : Job)
    (w : World) : Except Cause (TrackerHandle × World × Result) :=
  let name := op.signature.name
  let effect (changed : TrackerHandle × World) : TrackerHandle × World × Result :=
    (changed.1, changed.2, .nothing)
  let observe (o : Observation) : TrackerHandle × World × Result :=
    (receiver, receiver.observe o w, .nothing)
  match op with
  | .setDisplayName => do
    return effect (receiver.chooseName (← Arguments.text name arguments 0) w)
  | .startTracker => .ok (effect (receiver.start job w))
  | .stopTracker => .ok (effect (receiver.stop w))
  | .increment => .ok (observe .occurrence)
  | .incrementCategory => do
    return observe (.inCategory (← Arguments.string name arguments 0))
  | .startTimer => .ok (observe .timerStarted)
  | .stopTimer => .ok (observe .timerStopped)
  | .addValue => do return observe (.sample (← Arguments.int name arguments 0))

end TrackerOperation

end JobScript
