import JobScript.Span

/-!
# Collection Intervals

A tracker's time is cut into intervals of one length. The interval clock knows where the current
interval ends; asked for an instant, it steps over every boundary up to there and says how many it
crossed.

## Architecture

- `IntervalClock`: the length, the start, and the next boundary
- `IntervalClock.cross`: the loop over boundaries, by the distance still to go
- `IntervalClock.advance`: the clock at an instant
-/

namespace JobScript

/-- Where the current collection interval ends. -/
structure IntervalClock where
  length : Span
  startedAt : Option Instant := none
  /-- End of the current interval, once started -/
  boundary : Option Instant := none
  /-- An interval takes time -/
  length_pos : 0 < length
  deriving DecidableEq, Repr

namespace IntervalClock

/-- The shortest interval: one of no length would never end. -/
def shortest : Span := Span.millisecond

/-- A clock that has not been started, with intervals of the given length or the shortest one. -/
def ofLength (length : Span) : IntervalClock where
  length := max length shortest
  length_pos := Nat.lt_of_lt_of_le (by decide) (Nat.le_max_right length shortest)

/-- Start the first interval. -/
def start (clock : IntervalClock) (now : Instant) : IntervalClock :=
  { clock with startedAt := some now, boundary := some (now + clock.length) }

/-- Step over boundaries, `length` apart, as long as they are not after `now`: how many, and the
first one that lies ahead. -/
def cross (length : Span) (length_pos : 0 < length) (boundary now : Instant) : Nat × Instant :=
  if boundary ≤ now then
    let crossed := cross length length_pos (boundary + length) now
    (crossed.1 + 1, crossed.2)
  else (0, boundary)
  termination_by now + 1 - boundary
  decreasing_by simp only [Instant, Span] at *; omega

/-- Number of boundaries between the last call and `now`, and the clock behind them. A clock that
was not started crosses none. -/
def advance (clock : IntervalClock) (now : Instant) : Nat × IntervalClock :=
  match clock.boundary with
  | none => (0, clock)
  | some boundary =>
    let crossed := cross clock.length clock.length_pos boundary now
    (crossed.1, { clock with boundary := some crossed.2 })

end IntervalClock

end JobScript
