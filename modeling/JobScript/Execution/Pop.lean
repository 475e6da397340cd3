import JobScript.Catalog.Mail
import JobScript.Execution.Outcome

/-!
# Operations on Mail Sessions, Carried Out

Failures that a script is expected to handle come back as values. Only a connection that breaks is
an error; what it changed in the session and on the connection before it broke stays changed.
-/

namespace JobScript

namespace PopSession

/-- The outcome of an exchange over the session's connection. -/
def converseOutcome {α : Type} (s : PopSession) (w : World) (unconnected : α)
    (exchange : Pop.Exchange α) (result : α → Result) : Outcome PopSession :=
  let (s, network, answer) := s.converse w.network unconnected exchange
  { target := s
    world := { w with network }
    result :=
      match answer with
      | .ok value => .ok (result value)
      | .error error => .error (.transport error.message) }

/-- The outcome of an attempt to connect. -/
def connectOutcome (s : PopSession) (w : World) (host : String) (port : Int32) (secure : Bool) :
    Outcome PopSession :=
  let (s, network, connected) := s.connect w.network host port secure
  ⟨s, { w with network }, .ok (.boolean connected)⟩

/-- Go on with arguments once they are read; arguments that cannot be read change nothing. -/
def withArguments {α : Type} (s : PopSession) (w : World) (arguments : Except Cause α)
    (go : α → Outcome PopSession) : Outcome PopSession :=
  match arguments with
  | .ok arguments => go arguments
  | .error cause => ⟨s, w, .error cause⟩

end PopSession

namespace PopOperation

def run (op : PopOperation) (s : PopSession) (arguments : List Value) (w : World) :
    Outcome PopSession :=
  let name := op.signature.name
  let int := Arguments.int name arguments
  let string := Arguments.string name arguments
  match op with
  | .connect | .connectSecurely =>
    -- Only a third argument can ask for a secured link, whichever form was called
    let secure := if arguments.length = 3 then Arguments.boolean name arguments 2 else .ok false
    s.withArguments w (do return (← string 0, ← int 1, ← secure)) fun (host, port, secure) =>
      s.connectOutcome w host port secure
  | .authenticate =>
    s.withArguments w (do return (← string 0, ← string 1)) fun (user, password) =>
      s.converseOutcome w false (Pop.authenticate user password) .boolean
  | .delete =>
    s.withArguments w (int 0) fun message =>
      s.converseOutcome w false (Pop.delete message) .boolean
  | .disconnect =>
    let (s, network) := s.disconnect w.network
    ⟨s, { w with network }, .ok .nothing⟩
  | .failureReason => ⟨s, w, .ok (.textOrUnset s.failureReason)⟩
  | .list => s.converseOutcome w [] Pop.list .list
  | .noop => s.converseOutcome w () Pop.noop fun _ => .nothing
  | .retrieve =>
    s.withArguments w (int 0) fun message =>
      s.converseOutcome w {} (Pop.retrieve message) fun mail => .value (.mailMessage mail)
  | .stat => s.converseOutcome w (-1) Pop.stat .int
  | .top =>
    s.withArguments w (do return (← int 0, ← int 1)) fun (message, lines) =>
      s.converseOutcome w [] (Pop.top message lines) .list

end PopOperation

end JobScript
