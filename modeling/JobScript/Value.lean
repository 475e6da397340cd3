import JobScript.Mail.Message
import JobScript.Pop.Session
import JobScript.RateLimiter
import JobScript.TextList
import JobScript.TrackerHandle

/-!
# Script Values

A variable owns its state, with two exceptions that assignment makes visible: sessions share
connections and trackers share statistics. Text can be unset, which is not the same as empty.

## Architecture

- `Value`: the state of a variable, by type
- `Value.initial`, `Value.declared`: new values and declared variables
- `Value.assign`: taking over another value of the same type
- `Literal`: constants written in a script
-/

namespace JobScript

/-! ## Section 1: Values -/

inductive Value where
  | boolean (b : Bool)
  | int (n : Int32)
  /-- Text, or unset -/
  | text (t : Option String)
  | textList (l : TextList)
  | tracker (h : TrackerHandle)
  | popConnection (s : PopSession)
  | mailMessage (m : MailMessage)
  /-- The script's own random source -/
  | script (source : Random.Source)
  | rateLimiter (limiter : RateLimiter)
  deriving DecidableEq

/-- Values of the type draw random numbers from a source of their own. -/
def ValueType.drawsRandomly : ValueType → Bool
  | .textList | .script => true
  | _ => false

namespace Value

def type : Value → ValueType
  | .boolean _ => .boolean
  | .int _ => .int
  | .text _ => .text
  | .textList _ => .textList
  | .tracker h => .tracker h.kind
  | .popConnection _ => .popConnection
  | .mailMessage _ => .mailMessage
  | .script _ => .script
  | .rateLimiter _ => .rateLimiter

/-- The state of a new value, with the random source that it draws from if it draws at all. -/
def initial (t : ValueType) (source : Random.Source) : Value :=
  match t with
  | .boolean => .boolean false
  | .int => .int 0
  | .text => .text none
  | .textList => .textList { source }
  | .tracker kind => .tracker { kind }
  | .popConnection => .popConnection {}
  | .mailMessage => .mailMessage {}
  | .script => .script source
  | .rateLimiter => .rateLimiter {}

/-- The state of a variable declared under a name. Trackers remember the name. -/
def declared (t : ValueType) (name : String) (source : Random.Source) : Value :=
  match initial t source with
  | .tracker h => .tracker { h with variableName := some name }
  | value => value

/-- A declared variable has the declared type. -/
theorem type_declared (t : ValueType) (name : String) (source : Random.Source) :
    (declared t name source).type = t := by
  cases t <;> rfl

/-- The value after taking over the state of another one, which must have the same type. The
script cannot be assigned at all. -/
def assign (target source : Value) : Except Cause Value :=
  match target, source with
  -- Refused before the types are compared
  | .script _, _ => .error (.assignRejected .script)
  | .boolean _, .boolean b => .ok (.boolean b)
  | .int _, .int n => .ok (.int n)
  | .text _, .text t => .ok (.text t)
  | .textList l, .textList other => .ok (.textList (l.assign other))
  | .tracker h, .tracker other =>
    if h.kind = other.kind then .ok (.tracker (h.assign other))
    else .error (.assignMismatch (.tracker h.kind) (.tracker other.kind))
  | .popConnection _, .popConnection s => .ok (.popConnection s)
  | .mailMessage _, .mailMessage m => .ok (.mailMessage m)
  | .rateLimiter _, .rateLimiter limiter => .ok (.rateLimiter limiter)
  | target, source => .error (.assignMismatch target.type source.type)

def booleanText (b : Bool) : String :=
  if b then "true" else "false"

def render : Value → String
  | .boolean b => booleanText b
  | .int n => Text.Decimal.ofInt32 n
  | .text t => t.getD "null"
  | .textList l => l.render
  | .tracker h => h.render
  | .popConnection s => s.render
  | .mailMessage m => m.render
  | .script _ => "script"
  | .rateLimiter limiter => limiter.render

end Value

/-! ## Section 2: Literals -/

/-- A constant written in a script. -/
inductive Literal where
  | boolean (b : Bool)
  | int (n : Int32)
  | text (s : String)
  deriving DecidableEq

namespace Literal

def type : Literal → ValueType
  | .boolean _ => .boolean
  | .int _ => .int
  | .text _ => .text

def value : Literal → Value
  | .boolean b => .boolean b
  | .int n => .int n
  | .text s => .text (some s)

def render : Literal → String
  | .boolean b => Value.booleanText b
  | .int n => Text.Decimal.ofInt32 n
  | .text s => "\"" ++ s ++ "\""

end Literal

end JobScript
