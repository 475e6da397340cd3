import JobScript.Span

/-!
# Rate Limiters

A rate limiter paces the turns of a loop to a fixed shortest duration. Starting its timer fixes a
deadline that many milliseconds ahead; waiting for the remaining time ends at that deadline.
-/

namespace JobScript

structure RateLimiter where
  /-- Milliseconds per turn -/
  duration : Int32 := 0
  /-- End of the current turn, once a timer was started -/
  deadline : Option Instant := none
  deriving DecidableEq

namespace RateLimiter

/-- Set the duration; it takes effect when the timer is started next. -/
def setDuration (limiter : RateLimiter) (duration : Int32) : RateLimiter :=
  { limiter with duration }

/-- Start a turn. A negative duration is no time at all. -/
def startTimer (limiter : RateLimiter) (now : Instant) : RateLimiter :=
  { limiter with deadline := some (now + Span.ofMilliseconds limiter.duration.toInt) }

/-- Time left until the deadline. -/
def remaining (limiter : RateLimiter) (now : Instant) : Span :=
  match limiter.deadline with
  | none => 0
  | some deadline => deadline - now

def render (limiter : RateLimiter) : String :=
  "RateLimiter(" ++ toString limiter.duration.toInt ++ ")"

end RateLimiter

end JobScript
