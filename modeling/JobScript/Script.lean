import JobScript.Run

/-!
# Scripts as Sequences of Steps

A script is a sequence of steps on one run. A step that goes wrong is reported and leaves the run
to the next step. Calls by name are resolved where they stand: the types of the arguments are
looked up first, then the operation, then it is performed.

## Architecture

- `Step`: declarations, calls, assignments, and what the job does meanwhile
- `Report`: a diagnostic of a step that was not performed, or the failure of one that was
- `Run.perform`, `Run.performAll`: one step, and a whole script
-/

namespace JobScript

/-! ## Section 1: Steps -/

/-- One step of a script or of the job around it. -/
inductive Step where
  /-- Declare a variable of the type that a keyword names -/
  | declare (line : Line) (name keyword : String)
  /-- Call an operation by name -/
  | call (line : Line) (target operation : String) (arguments : List Argument)
  /-- Perform an operation by its index, without asking whether the arguments fit -/
  | invoke (line : Line) (target : String) (index : Nat) (arguments : List Argument)
  | assign (line : Line) (target : String) (source : Argument)
  | wait (span : Span)
  /-- The job asks the script to stop, or takes that back -/
  | requestStop (requested : Bool)
  | stopTrackers
  | releaseSessions
  deriving DecidableEq

/-- What went wrong in a step. -/
inductive Report where
  /-- The step was not performed -/
  | diagnostic (d : Diagnostic)
  /-- The step failed while it was performed -/
  | failure (f : Failure)
  deriving DecidableEq

/-! ## Section 2: Performing -/

namespace Run

/-- The type of an argument; an undeclared variable has none. -/
def argumentType (run : Run) (line : Line) : Argument → Except Diagnostic ValueType
  | .literal l => .ok l.type
  | .variable name =>
    match run.typeOf? name with
    | some t => .ok t
    | none => .error (Resolution.undeclaredVariable line name)

/-- The types of arguments, up to the first undeclared variable. -/
def argumentTypes (run : Run) (line : Line) : List Argument → Except Diagnostic (List ValueType)
  | [] => .ok []
  | a :: rest => do
    let t ← run.argumentType line a
    return t :: (← run.argumentTypes line rest)

/-- Resolve a call as it is written. -/
def resolveWritten (run : Run) (line : Line) (target operation : String)
    (arguments : List Argument) : Except Diagnostic Nat := do
  let types ← run.argumentTypes line arguments
  run.resolve line target operation types

/-- Declare a variable by the keyword of its type. -/
def declareWritten (run : Run) (line : Line) (name keyword : String) : Except Diagnostic Run :=
  match ValueType.ofKeyword? keyword with
  | some t => run.declare line name t
  | none => .error (Resolution.unknownType line keyword)

/-- Perform a step: the run afterwards, and the value that the step gave or what went wrong. -/
def perform (run : Run) : Step → Run × Except Report (Option Value)
  | .declare line name keyword =>
    match run.declareWritten line name keyword with
    | .ok run => (run, .ok none)
    | .error d => (run, .error (.diagnostic d))
  | .call line target operation arguments =>
    match run.resolveWritten line target operation arguments with
    | .error d => (run, .error (.diagnostic d))
    | .ok index =>
      let invoked := run.invoke line target index arguments
      (invoked.1, invoked.2.mapError .failure)
  | .invoke line target index arguments =>
    let invoked := run.invoke line target index arguments
    (invoked.1, invoked.2.mapError .failure)
  | .assign line target source =>
    match run.assign line target source with
    | .ok run => (run, .ok none)
    | .error f => (run, .error (.failure f))
  | .wait span => ({ run with world := run.world.sleep span }, .ok none)
  | .requestStop requested =>
    ({ run with world := { run.world with stopRequested := requested } }, .ok none)
  | .stopTrackers => (run.stopTrackers, .ok none)
  | .releaseSessions => (run.releaseSessions, .ok none)

/-- Perform steps one after the other, whatever becomes of each. -/
def performAll (run : Run) (steps : List Step) : Run :=
  steps.foldl (fun run step => (run.perform step).1) run

end Run

end JobScript
