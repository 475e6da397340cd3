import JobScript.Diagnostic.Resolution
import JobScript.Execution
import JobScript.Identifier

/-!
# Runs of a Script

A run owns the declared variables of a script and performs resolved calls on them. Trackers and
sessions outlive single calls, so a run ends by stopping the one and releasing the other, however
the script came to its end.

## Architecture

- `Run`: variables in order of declaration, statistics given up by assignment, the shared state
- `Run.declare`, `Run.resolve`, `Run.invoke`, `Run.assign`: what scripts do
- `Run.liveTrackers`, `Run.stopTrackers`, `Run.releaseSessions`, `Run.finish`: the end of a run
-/

namespace JobScript

/-! ## Section 1: State -/

/-- An argument as it is written at a call. -/
inductive Argument where
  | literal (l : Literal)
  | variable (name : String)
  deriving DecidableEq

structure Run where
  job : Job
  /-- Declared variables, in order of declaration -/
  «variables» : List (String × Value) := []
  /-- Statistics that a variable let go of through assignment -/
  retired : List TrackerId := []
  world : World := {}

namespace Run

def get? (run : Run) (name : String) : Option Value :=
  run.variables.lookup name

def typeOf? (run : Run) (name : String) : Option ValueType :=
  (run.get? name).map Value.type

def size (run : Run) : Nat :=
  run.variables.length

/-- The variables with another value for one of them. -/
def replace (name : String) (value : Value) (entries : List (String × Value)) :
    List (String × Value) :=
  entries.map fun entry => if entry.1 = name then (entry.1, value) else entry

def set (run : Run) (name : String) (value : Value) : Run :=
  { run with «variables» := replace name value run.variables }

/-! ## Section 2: Declarations -/

/-- Declare a variable. Values that draw random numbers take the next source of the run. -/
def declare (run : Run) (line : Line) (name : String) (t : ValueType) : Except Diagnostic Run :=
  if !Identifier.isValid name then .error (Resolution.invalidIdentifier line name)
  else if (run.get? name).isSome then .error (Resolution.duplicateVariable line name)
  else
    let (source, world) := run.world.nextSource run.job.settings.runSeed
    -- A source counts as handed out only to a value that draws from it
    .ok { run with
      «variables» := run.variables ++ [(name, Value.declared t name source)]
      world := if t.drawsRandomly then world else run.world }

/-! ## Section 3: Calls -/

/-- Resolve the call of an operation on a variable. -/
def resolve (run : Run) (line : Line) (target operation : String) (types : List ValueType) :
    Except Diagnostic Nat :=
  match run.typeOf? target with
  | none => .error (Resolution.undeclaredVariable line target)
  | some t => Resolution.resolveCall line t operation types

/-- The value an argument supplies. -/
def argument (run : Run) (line : Line) : Argument → Except Failure Value
  | .literal l => .ok l.value
  | .variable name =>
    match run.get? name with
    | some value => .ok value
    | none => .error ⟨.undeclaredVariable name, some line⟩

/-- The values that arguments supply, the first undeclared variable among them being an error. -/
def evaluate (run : Run) (line : Line) : List Argument → Except Failure (List Value)
  | [] => .ok []
  | a :: rest => do
    let value ← run.argument line a
    return value :: (← run.evaluate line rest)

/-- A call as a trace shows it: `line:  target.operation(argument, argument)`. -/
def callText (line : Line) (target : String) (t : ValueType) (index : Nat)
    (arguments : List Value) : String :=
  let operation := (Catalog.signature? t index).elim "?" Signature.name
  s!"{line.number}:  {target}.{operation}(" ++ ", ".intercalate (arguments.map Value.render) ++ ")"

/-- The trace of a call: the call, the target before and after it, and the value it gave back. -/
def traceText (line : Line) (target : String) (before : Value) (index : Nat)
    (arguments : List Value) (after : Value) (returned : Option Value) : String :=
  callText line target before.type index arguments ++
    s!"\n\tVariable {target} initial value:  {before.render}" ++
    s!"\n\tVariable {target} resulting value:  {after.render}" ++
    returned.elim "" fun value => s!"\n\tReturn value:  {value.render}"

/-- Perform an operation on a variable. Arguments are evaluated first, so an operation never sees
its target change through an argument. -/
def invoke (run : Run) (line : Line) (target : String) (index : Nat) (arguments : List Argument) :
    Run × Except Failure (Option Value) :=
  match run.evaluate line arguments with
  | .error failure => (run, .error failure)
  | .ok values =>
    match run.get? target with
    | none => (run, .error ⟨.undeclaredVariable target, some line⟩)
    | some before =>
      let outcome := execute run.job run.world before index values
      let (returned, world) : Except Failure (Option Value) × World :=
        match outcome.result with
        | .ok result =>
          let settled := result.settle run.job outcome.world
          (.ok settled.1, settled.2)
        | .error cause => (.error ⟨cause, some line⟩, outcome.world)
      -- The trace comes after the messages of the operation itself, and comes for failures too
      let world :=
        if run.job.settings.traceCalls then
          world.say (.debug (traceText line target before index values outcome.target
            (returned.toOption.bind id)))
        else world
      ({ run.set target outcome.target with world }, returned)

/-! ## Section 4: Assignment -/

/-- Statistics that a value feeds. -/
def fedBy : Value → Option TrackerId
  | .tracker h => h.statistics
  | _ => none

/-- Assign an argument to a variable. Statistics that a tracker variable lets go of stay known to
the run. -/
def assign (run : Run) (line : Line) (target : String) (source : Argument) :
    Except Failure Run := do
  let source ← run.argument line source
  match run.get? target with
  | none => .error ⟨.undeclaredVariable target, some line⟩
  | some before =>
    match before.assign source with
    | .error cause => .error ⟨cause, some line⟩
    | .ok after =>
      -- Statistics given up for themselves are not given up
      let retired :=
        match fedBy before with
        | some old => if fedBy after = some old then run.retired else run.retired ++ [old]
        | none => run.retired
      return { run.set target after with retired }

/-! ## Section 5: The end of a run -/

/-- All statistics that were started, each once: those that variables feed, then those that
variables let go of. -/
def liveTrackers (run : Run) : List TrackerId :=
  (run.variables.filterMap (fun entry => fedBy entry.2) ++ run.retired).eraseDups

/-- Stop the statistics of one variable, if it is collecting. -/
def stopVariable (value : Value) (w : World) : Value × World :=
  match value with
  | .tracker h =>
    if h.collecting then
      let stopped := h.stop w
      (.tracker stopped.1, stopped.2)
    else (value, w)
  | _ => (value, w)

/-- Close the connection of one variable. -/
def releaseVariable (value : Value) (w : World) : Value × World :=
  match value with
  | .popConnection s =>
    let released := s.disconnect w.network
    (.popConnection released.1, { w with network := released.2 })
  | _ => (value, w)

/-- Let a change run through all variables, in order. -/
def sweep (change : Value → World → Value × World) :
    List (String × Value) → World → List (String × Value) × World
  | [], w => ([], w)
  | (name, value) :: rest, w =>
    let changed := change value w
    let swept := sweep change rest changed.2
    ((name, changed.1) :: swept.1, swept.2)

/-- Stop the statistics of a number, if they are running. -/
def stopRunning (w : World) (id : TrackerId) : World :=
  if (w.statistics[id]?).any Statistics.isRunning then w.stopStatistics id else w

/-- Stop every tracker that is still collecting, and all statistics that were let go of. -/
def stopTrackers (run : Run) : Run :=
  let swept := sweep stopVariable run.variables run.world
  { run with «variables» := swept.1, world := run.retired.foldl stopRunning swept.2 }

def releaseSessions (run : Run) : Run :=
  let swept := sweep releaseVariable run.variables run.world
  { run with «variables» := swept.1, world := swept.2 }

/-- End the run: stop its trackers, close its connections. -/
def finish (run : Run) : Run :=
  run.stopTrackers.releaseSessions

end Run

end JobScript
