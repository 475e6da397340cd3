import JobScript.Job
import JobScript.Value

/-!
# What a Run Shares

The part of a run that does not belong to any one variable: the clock, the number of random
sources handed out, the statistics and connections that variables share by number, and what the
job has received.

## Architecture

- `World`: the shared state
- `World.nextSource`: random sources, each with a seed of its own
- `World.observe`, `World.stopStatistics`: statistics by their number
-/

namespace JobScript

/-- A message from a script to its job. -/
inductive Message where
  | log (text : String)
  | debug (text : String)
  deriving DecidableEq, Repr

/-- The shared state of a run. -/
structure World where
  /-- Time since the run started -/
  now : Instant := 0
  /-- Random sources handed out so far -/
  issued : Nat := 0
  /-- All statistics of the run, in order of creation -/
  statistics : List Statistics := []
  network : Pop.Network := {}
  /-- The job was asked to stop -/
  stopRequested : Bool := false
  /-- Messages the job received, in order -/
  messages : List Message := []
  points : List DataPoint := []

namespace World

def say (w : World) (message : Message) : World :=
  { w with messages := w.messages ++ [message] }

def sleep (w : World) (span : Span) : World :=
  { w with now := w.now + span }

/-- The next random source of the run. -/
def nextSource (w : World) (runSeed : UInt64) : Random.Source × World :=
  (Random.Source.ofSeed (Random.seedOf runSeed (UInt64.ofNat w.issued)),
    { w with issued := w.issued + 1 })

/-- Replace the statistics of a number and pass on what they report. -/
def putStatistics (w : World) (id : TrackerId) (changed : Statistics × List DataPoint) : World :=
  { w with statistics := w.statistics.set id changed.1, points := w.points ++ changed.2 }

/-- Let the statistics of a number take in an observation. -/
def observe (w : World) (id : TrackerId) (o : Observation) : World :=
  match w.statistics[id]? with
  | some s => w.putStatistics id (s.observe o w.now)
  | none => w

/-- Stop the statistics of a number. -/
def stopStatistics (w : World) (id : TrackerId) : World :=
  match w.statistics[id]? with
  | some s => w.putStatistics id (s.stop w.now)
  | none => w

/-- The statistics that a handle feeds. -/
def statisticsOf (w : World) (h : TrackerHandle) : Option Statistics :=
  h.statistics.bind (w.statistics[·]?)

end World

end JobScript
