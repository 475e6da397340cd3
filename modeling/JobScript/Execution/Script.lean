import JobScript.Catalog.Job
import JobScript.Execution.Outcome
import JobScript.Timestamp.Pattern

/-!
# Operations of the Script and of Rate Limiters, Carried Out
-/

namespace JobScript

/-! ## Section 1: Random data -/

/-- Characters that random text is made of unless others are given. -/
def defaultAlphabet : String := "abcdefghijklmnopqrstuvwxyz"

namespace Random.Source

/-- A uniform integer between two bounds, both included. -/
def drawInt (source : Random.Source) (low high : Int32) : Except Cause (Int32 × Random.Source) :=
  if high < low then
    .error (.invalidArgument "randomint"
      s!"lower bound {low.toInt} exceeds upper bound {high.toInt}")
  else
    let count := (high.toInt - low.toInt + 1).toNat
    -- All integers: the word itself is the choice
    if count = UInt32.size then
      let drawn := source.word32
      .ok (Int32.ofInt drawn.1, drawn.2)
    else
      let drawn := source.below32 count
      .ok (Int32.ofInt (low.toInt + drawn.1), drawn.2)

/-- So many uniform choices out of an alphabet. -/
def drawChars (alphabet : List Char) : (count : Nat) → Random.Source → List Char × Random.Source
  | 0, source => ([], source)
  | count + 1, source =>
    let drawn := source.below64 alphabet.length
    let rest := drawChars alphabet count drawn.2
    (alphabet.getD drawn.1 default :: rest.1, rest.2)

/-- Random text of a length, out of the characters of an alphabet. -/
def drawText (source : Random.Source) (length : Int32) (alphabet : String) :
    Except Cause (String × Random.Source) :=
  if length < 0 then
    .error (.invalidArgument "randomstring" s!"negative length {length.toInt}")
  else if alphabet.isEmpty then .error (.invalidArgument "randomstring" "empty character set")
  else
    let drawn := drawChars alphabet.toList length.toInt.toNat source
    .ok (String.ofList drawn.1, drawn.2)

end Random.Source

/-! ## Section 2: Time of day -/

/-- Local time of the job at an instant of its run. -/
def Job.localTime (job : Job) (now : Instant) : Timestamp.LocalTime :=
  .ofUnix (job.startedAt + (now / Span.millisecond : Nat)) job.utcOffset

/-- The time of day in a pattern. -/
def Job.timestamp (job : Job) (now : Instant) (pattern : String) : Except Cause String :=
  Timestamp.render Timestamp.strftime pattern (job.localTime now)

/-! ## Section 3: The script -/

namespace ScriptOperation

def run (op : ScriptOperation) (source : Random.Source) (arguments : List Value) (job : Job)
    (w : World) : Except Cause (Random.Source × World × Result) :=
  let name := op.signature.name
  let effect (w : World) : Random.Source × World × Result := (source, w, .nothing)
  let keep (result : Result) : Random.Source × World × Result := (source, w, result)
  let argument : Except Cause (Option String) := do
    return job.settings.argument? (Text.toLower (← Arguments.string name arguments 0))
  match op with
  | .debugMessage => do return effect (w.say (.debug (← Arguments.string name arguments 0)))
  | .logMessage => do return effect (w.say (.log (← Arguments.string name arguments 0)))
  | .exit => .error (.exit .completed)
  | .exitWithError => .error (.exit .failed)
  | .sleep => do
    let milliseconds ← Arguments.int name arguments 0
    return effect (w.sleep (Span.ofMilliseconds milliseconds.toInt))
  | .clientNumber => .ok (keep (.int job.clientNumber))
  | .threadNumber => .ok (keep (.int job.threadNumber))
  | .shouldStop => .ok (keep (.boolean w.stopRequested))
  | .shouldNotStop => .ok (keep (.boolean (!w.stopRequested)))
  | .argument => do return keep (.textOrUnset (← argument))
  | .argumentOr => do
    match ← argument with
    | some value => return keep (.text value)
    | none => return keep (.textOrUnset (← Arguments.text name arguments 1))
  | .booleanArgument => do
    match (← argument).bind Text.truthValue? with
    | some b => return keep (.boolean b)
    | none => return keep (.boolean (← Arguments.boolean name arguments 1))
  | .intArgument => do
    match (← argument).bind Text.Decimal.int32? with
    | some n => return keep (.int n)
    | none => return keep (.int (← Arguments.int name arguments 1))
  | .randomInt => do
    let low ← Arguments.int name arguments 0
    let high ← Arguments.int name arguments 1
    let (n, source) ← source.drawInt low high
    return (source, w, .int n)
  | .randomText => do
    let length ← Arguments.int name arguments 0
    let (text, source) ← source.drawText length defaultAlphabet
    return (source, w, .text text)
  | .randomTextOf => do
    let length ← Arguments.int name arguments 0
    let alphabet ← Arguments.string name arguments 1
    let (text, source) ← source.drawText length alphabet
    return (source, w, .text text)
  | .timestamp => do return keep (.text (← job.timestamp w.now Timestamp.defaultPattern))
  | .timestampAs => do
    return keep (.text (← job.timestamp w.now (← Arguments.string name arguments 0)))

end ScriptOperation

/-! ## Section 4: Rate limiters -/

namespace RateLimiterOperation

def run (op : RateLimiterOperation) (limiter : RateLimiter) (arguments : List Value) (w : World) :
    Except Cause (RateLimiter × World × Result) :=
  match op with
  | .duration => .ok (limiter, w, .int limiter.duration)
  | .setDuration => do
    return (limiter.setDuration (← Arguments.int op.signature.name arguments 0), w, .nothing)
  | .startTimer => .ok (limiter.startTimer w.now, w, .nothing)
  | .sleepForRemainingTime => .ok (limiter, w.sleep (limiter.remaining w.now), .nothing)

end RateLimiterOperation

end JobScript
