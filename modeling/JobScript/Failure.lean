import JobScript.Diagnostic.Code
import JobScript.Line
import JobScript.ValueType

/-!
# Failures of Running Calls

A resolved call can still fail while it runs. A failure has a cause and, once known, the line of
the call. Ending the script through `exit` and `exitwitherror` travels the same way, but it is a
signal and no fault.
-/

namespace JobScript

/-! ## Section 1: Causes -/

/-- How a script asked to end. -/
inductive ScriptEnd where
  | completed
  | failed
  deriving DecidableEq, Repr

inductive Cause where
  | divisionByZero
  | remainderByZero
  /-- A position is outside a text or list of the given length -/
  | outOfRange (operation : String) (index : Int) (length : Nat)
  /-- An argument has the right type and a value that the operation does not accept -/
  | invalidArgument (operation : String) (reason : String)
  | undeclaredVariable (name : String)
  /-- Source and target of an assignment differ in type -/
  | assignMismatch (target source : ValueType)
  /-- Values of the target's type cannot be assigned at all -/
  | assignRejected (target : ValueType)
  /-- The connection of a session broke -/
  | transport (message : String)
  /-- The script asked to end -/
  | exit (how : ScriptEnd)
  /-- The index stands for no operation of the type -/
  | undefinedOperation (target : ValueType) (index : Nat)
  /-- An argument is missing or does not have the expected type -/
  | argumentType (operation : String) (position : Nat) (expected : ValueType)
      (found : Option ValueType)
  deriving DecidableEq, Repr

namespace Cause

def message : Cause → String
  | .divisionByZero => "division by zero"
  | .remainderByZero => "remainder by zero"
  | .outOfRange operation index length =>
    s!"{operation}: index {index} out of range for length {length}"
  | .invalidArgument operation reason => s!"{operation}: {reason}"
  | .undeclaredVariable name => s!"undeclared variable: {name}"
  | .assignMismatch target source =>
    s!"Attempt to assign an argument of type {source.keyword} to a variable of type " ++
      s!"{target.keyword} rejected."
  | .assignRejected target => s!"Attempt to assign a {target.keyword} variable rejected."
  | .transport message => s!"transport failure: {message}"
  | .exit .completed => "script exited"
  | .exit .failed => "script exited with an error"
  | .undefinedOperation target index =>
    s!"There is no operation {index} defined for {target.keyword} values."
  | .argumentType operation position expected (some found) =>
    s!"{operation}: argument {position} should be {expected.keyword}, found {found.keyword}"
  | .argumentType operation position expected none =>
    s!"{operation}: argument {position} ({expected.keyword}) is missing"

/-- The code of the cause; a script that ended as planned has none. -/
def code : Cause → Option ErrorCode
  | .divisionByZero | .remainderByZero => some .E6001
  | .outOfRange .. => some .E6002
  | .assignMismatch .. | .assignRejected .. => some .E6003
  | .transport .. => some .E6004
  | .invalidArgument .. => some .E6005
  | .undeclaredVariable .. => some .E1006
  | .exit .completed => none
  | .exit .failed => some .E6006
  | .undefinedOperation .. => some .E9001
  | .argumentType .. => some .E9002

def isControl : Cause → Bool
  | .exit _ => true
  | _ => false

/-- The call does not fit the catalog: no resolved call causes this. -/
def isDefect : Cause → Bool
  | .undefinedOperation .. | .argumentType .. => true
  | _ => false

end Cause

/-! ## Section 2: Failures -/

structure Failure where
  cause : Cause
  /-- Line of the call, once known -/
  line : Option Line := none
  deriving DecidableEq, Repr

namespace Failure

/-- Attach the line of the call; a line that is already known stays. -/
def atLine (failure : Failure) (line : Line) : Failure :=
  { failure with line := some (failure.line.getD line) }

def render (failure : Failure) : String :=
  match failure.line with
  | some line => s!"Script error on line {line.number}:  {failure.cause.message}"
  | none => failure.cause.message

end Failure

end JobScript
