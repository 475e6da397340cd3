import JobScript.Span

/-!
# Collection Context

Who collects statistics, and how often intervals close.
-/

namespace JobScript

/-- Identity and interval of the trackers of one run. -/
structure CollectionContext where
  client : String
  thread : String
  /-- Interval length in seconds; zero selects the default -/
  intervalSeconds : Nat
  deriving DecidableEq, Repr

namespace CollectionContext

/-- Interval length in seconds when none is given. -/
def defaultIntervalSeconds : Nat := 60

def interval (context : CollectionContext) : Span :=
  Span.ofSeconds
    (if context.intervalSeconds = 0 then defaultIntervalSeconds else context.intervalSeconds)

end CollectionContext

end JobScript
