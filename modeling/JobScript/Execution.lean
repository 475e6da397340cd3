import JobScript.Execution.Boolean
import JobScript.Execution.Int
import JobScript.Execution.Mail
import JobScript.Execution.Pop
import JobScript.Execution.Script
import JobScript.Execution.Text
import JobScript.Execution.TextList
import JobScript.Execution.Tracker

/-!
# Carrying Out Operations

An operation index is looked up in the catalog of the target's type and carried out on the target.
An index that stands for no operation is an error of its own.
-/

namespace JobScript

/-- Carry out the operation that an index stands for in a catalog, on a target of type `t`. -/
def dispatch {σ ω : Type} (t : ValueType) (catalog : List ω) (index : Nat) (target : σ) (w : World)
    (run : ω → Outcome σ) : Outcome σ :=
  match catalog[index]? with
  | some op => run op
  | none => ⟨target, w, .error (.undefinedOperation t index)⟩

/-- Carry out an operation on a value. -/
def execute (job : Job) (w : World) (target : Value) (index : Nat) (arguments : List Value) :
    Outcome Value :=
  match target with
  | .boolean b =>
    (dispatch .boolean BooleanOperation.catalog index b w fun op =>
      .ofTarget b w (op.run b arguments)).map .boolean
  | .int n =>
    (dispatch .int IntOperation.catalog index n w fun op =>
      .ofTarget n w (op.run n arguments)).map .int
  | .text t =>
    (dispatch .text TextOperation.catalog index t w fun op =>
      .ofTarget t w (op.run t arguments)).map .text
  | .textList l =>
    (dispatch .textList TextListOperation.catalog index l w fun op =>
      .ofTarget l w (op.run l arguments)).map .textList
  | .tracker h =>
    (dispatch (.tracker h.kind) (TrackerOperation.catalog h.kind) index h w fun op =>
      .ofExcept h w (op.run h arguments job w)).map .tracker
  | .popConnection s =>
    (dispatch .popConnection PopOperation.catalog index s w fun op =>
      op.run s arguments w).map .popConnection
  | .mailMessage m =>
    (dispatch .mailMessage MailOperation.catalog index m w fun op =>
      .ofTarget m w (op.run m arguments)).map .mailMessage
  | .script source =>
    (dispatch .script ScriptOperation.catalog index source w fun op =>
      .ofExcept source w (op.run source arguments job w)).map .script
  | .rateLimiter limiter =>
    (dispatch .rateLimiter RateLimiterOperation.catalog index limiter w fun op =>
      .ofExcept limiter w (op.run limiter arguments w)).map .rateLimiter

/-- Turn a result into a value; a new list takes the next random source. -/
def Result.settle (result : Result) (job : Job) (w : World) : Option Value × World :=
  match result with
  | .nothing => (none, w)
  | .value v => (some v, w)
  | .list lines =>
    let (source, w) := w.nextSource job.settings.runSeed
    (some (.textList (.ofLines lines source)), w)

end JobScript
