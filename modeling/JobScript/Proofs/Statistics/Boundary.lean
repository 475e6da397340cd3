import JobScript.Statistics.Interval

/-!
# Where the Boundaries Lie

The loop over boundaries has a closed form. A clock started at `start` that has crossed `n`
boundaries stands at `start + (n + 1) * length`, and it is brought to an instant by crossing as
many more as whole intervals have passed since.

## Architecture

- `IntervalClock.cross_eq`: the loop, computed by one division
- `IntervalClock.StandsAt`: the clock after a number of crossings
- `IntervalClock.StandsAt.advance`: one call brings the clock to the interval of an instant
-/

namespace JobScript.IntervalClock

/-! ## Section 1: The loop -/

/-- The loop crosses one boundary for each interval that ends by `now`. -/
theorem cross_eq (length : Span) (length_pos : 0 < length) (boundary now : Instant) :
    cross length length_pos boundary now =
      ((now + length - boundary) / length,
        boundary + (now + length - boundary) / length * length) := by
  -- Induction along the loop: one more boundary is one more in the quotient
  induction boundary using cross.induct length length_pos now with
  | case1 boundary hle ih =>
    have hquotient : (now + length - boundary) / length =
        (now + length - (boundary + length)) / length + 1 := by
      rw [← Nat.add_div_right _ length_pos]
      congr 1
      simp only [Instant, Span] at *
      omega
    rw [cross, if_pos hle, ih, hquotient, Nat.succ_mul]
    simp only [Prod.mk.injEq, true_and]
    simp only [Instant, Span] at *
    omega
  | case2 boundary hlt =>
    have hquotient : (now + length - boundary) / length = 0 := by
      apply Nat.div_eq_of_lt
      simp only [Instant, Span] at *
      omega
    rw [cross, if_neg hlt, hquotient, Nat.zero_mul, Nat.add_zero]

/-! ## Section 2: The clock -/

/-- Whole intervals between a start and an instant. -/
def passed (length : Span) (start now : Instant) : Nat :=
  (now - start) / length

/-- The clock was started, and has crossed a number of boundaries since. -/
structure StandsAt (clock : IntervalClock) (start : Instant) (crossed : Nat) : Prop where
  startedAt : clock.startedAt = some start
  boundary : clock.boundary = some (start + (crossed + 1) * clock.length)

/-- A clock that is started has crossed nothing. -/
theorem standsAt_start (clock : IntervalClock) (now : Instant) :
    (clock.start now).StandsAt now 0 where
  startedAt := rfl
  boundary := by simp only [start, Nat.zero_add, Nat.one_mul]

theorem passed_mono (length : Span) (start : Instant) {a b : Instant} (h : a ≤ b) :
    passed length start a ≤ passed length start b :=
  Nat.div_le_div_right (Nat.sub_le_sub_right h start)

theorem passed_max (length : Span) (start a b : Instant) :
    passed length start (max a b) = max (passed length start a) (passed length start b) := by
  rcases Nat.le_total a b with h | h
  · rw [Nat.max_eq_right h, Nat.max_eq_right (passed_mono length start h)]
  · rw [Nat.max_eq_left h, Nat.max_eq_left (passed_mono length start h)]

/-- An instant lies in the interval whose number counts the whole intervals before it. -/
theorem passed_eq_iff {length : Span} (length_pos : 0 < length) (start now : Instant) (i : Nat) :
    passed length start now = i ↔
      i * length ≤ now - start ∧ now - start < (i + 1) * length := by
  rw [passed, Nat.div_eq_iff length_pos, Nat.succ_mul, Nat.mul_comm i length]
  simp only [Instant, Span] at *
  omega

@[simp] theorem length_advance (clock : IntervalClock) (now : Instant) :
    (clock.advance now).2.length = clock.length := by
  unfold advance
  split <;> rfl

/-- **One call brings the clock to the interval of `now`**: it crosses the boundaries that lie
between, and none if the clock is already there or beyond. -/
theorem StandsAt.advance {clock : IntervalClock} {start : Instant} {crossed : Nat}
    (h : clock.StandsAt start crossed) (now : Instant) :
    (clock.advance now).1 = passed clock.length start now - crossed ∧
      (clock.advance now).2.StandsAt start (max crossed (passed clock.length start now)) := by
  have hcount : (now + clock.length - (start + (crossed + 1) * clock.length)) / clock.length =
      passed clock.length start now - crossed := by
    rw [passed, ← Nat.sub_mul_div, Nat.succ_mul, Nat.mul_comm clock.length crossed]
    congr 1
    simp only [Instant, Span] at *
    omega
  simp only [IntervalClock.advance, h.boundary, cross_eq, hcount]
  -- Truncated subtraction: a clock that is ahead of `now` crosses nothing
  have hmax : max crossed (passed clock.length start now) + 1 =
      crossed + 1 + (passed clock.length start now - crossed) := by omega
  refine ⟨trivial, h.startedAt, ?_⟩
  show some _ = some (start + (max crossed (passed clock.length start now) + 1) * clock.length)
  rw [hmax, Nat.add_mul (crossed + 1), Nat.add_assoc]

end JobScript.IntervalClock
