/-!
# Instants and Spans

Instants are counted in nanoseconds from an arbitrary zero, spans in nanoseconds. Both are natural
numbers: the span between two instants is zero when the second lies before the first.
-/

namespace JobScript

/-- A point in time, in nanoseconds from an arbitrary zero. -/
abbrev Instant := Nat

/-- A length of time, in nanoseconds. -/
abbrev Span := Nat

namespace Span

def second : Span := 1000000000

def millisecond : Span := 1000000

def ofSeconds (seconds : Nat) : Span := seconds * second

/-- A span of milliseconds; a negative number of them is no time at all. -/
def ofMilliseconds (milliseconds : Int) : Span := milliseconds.toNat * millisecond

/-- The span as a number of seconds. Whole seconds and the fraction are converted apart, and each
step rounds to nearest. -/
def toSeconds (span : Span) : Float :=
  (span / second).toUInt64.toFloat + (span % second).toUInt64.toFloat / 1e9

end Span

end JobScript
