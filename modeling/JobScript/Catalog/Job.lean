import JobScript.Catalog.Signature

/-!
# Operations of the Script and of Rate Limiters
-/

namespace JobScript

open ValueType

/-! ## Section 1: The script -/

inductive ScriptOperation where
  | debugMessage
  | exit
  | exitWithError
  | clientNumber
  | argument
  /-- A script argument, or the given text when it is absent -/
  | argumentOr
  | booleanArgument
  | intArgument
  | threadNumber
  | logMessage
  | randomInt
  | randomText
  /-- Random characters out of the given ones -/
  | randomTextOf
  | shouldNotStop
  | shouldStop
  | sleep
  | timestamp
  /-- The time of day in the given pattern -/
  | timestampAs
  deriving DecidableEq, Repr

namespace ScriptOperation

def signature : ScriptOperation → Signature
  | .debugMessage => .acting "debugmessage" [text]
  | .exit => .acting "exit" []
  | .exitWithError => .acting "exitwitherror" []
  | .clientNumber => .producing "getclientnumber" [] int
  | .argument => .producing "getscriptargument" [text] text
  | .argumentOr => .producing "getscriptargument" [text, text] text
  | .booleanArgument => .producing "getscriptbooleanargument" [text, boolean] boolean
  | .intArgument => .producing "getscriptintargument" [text, int] int
  | .threadNumber => .producing "getthreadnumber" [] int
  | .logMessage => .acting "logmessage" [text]
  | .randomInt => .producing "randomint" [int, int] int
  | .randomText => .producing "randomstring" [int] text
  | .randomTextOf => .producing "randomstring" [int, text] text
  | .shouldNotStop => .producing "shouldnotstop" [] boolean
  | .shouldStop => .producing "shouldstop" [] boolean
  | .sleep => .acting "sleep" [int]
  | .timestamp => .producing "timestamp" [] text
  | .timestampAs => .producing "timestamp" [text] text

def catalog : List ScriptOperation :=
  [.debugMessage, .exit, .exitWithError, .clientNumber, .argument, .argumentOr, .booleanArgument,
    .intArgument, .threadNumber, .logMessage, .randomInt, .randomText, .randomTextOf,
    .shouldNotStop, .shouldStop, .sleep, .timestamp, .timestampAs]

end ScriptOperation

/-! ## Section 2: Rate limiters -/

inductive RateLimiterOperation where
  | duration
  | setDuration
  | sleepForRemainingTime
  | startTimer
  deriving DecidableEq, Repr

namespace RateLimiterOperation

def signature : RateLimiterOperation → Signature
  | .duration => .producing "getduration" [] int
  | .setDuration => .acting "setduration" [int]
  | .sleepForRemainingTime => .acting "sleepforremainingtime" []
  | .startTimer => .acting "starttimer" []

def catalog : List RateLimiterOperation :=
  [.duration, .setDuration, .sleepForRemainingTime, .startTimer]

end RateLimiterOperation

end JobScript
