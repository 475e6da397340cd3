import JobScript.Proofs.Statistics.Boundary
import Mathlib.Algebra.GroupWithZero.Nat

/-!
# Boundaries Crossed by Many Calls

A clock is asked for instants in any order, time running forwards or backwards. Each call runs a
loop that steps over boundaries, and this loop ends since an interval takes time. What the calls
cross in all depends on nothing but the latest instant they were asked for: it is the number of
whole intervals up to there.

## Architecture

- `CrossingRun`: a run of the loop that ends, with its rounds counted
- `crossingRun_cross`: the loop has such a run, and gives what the run gives
- `advances`: several calls, one after the other
- `StandsAt.advances`: where they bring the clock
- `advances_path_independent`: a clock of any length, started and then asked for any instants
-/

namespace JobScript.IntervalClock

/-! ## Section 1: The loop of a call -/

/-- The loop over boundaries ends: it starts at a boundary, goes round so many times, and stops at
the first boundary that lies after `now`. -/
inductive CrossingRun (length : Span) (now : Instant) : Instant → Nat → Instant → Prop
  | stop {boundary : Instant} (hahead : ¬ boundary ≤ now) :
      CrossingRun length now boundary 0 boundary
  | next {boundary final : Instant} {rounds : Nat} (hpassed : boundary ≤ now)
      (hrest : CrossingRun length now (boundary + length) rounds final) :
      CrossingRun length now boundary (rounds + 1) final

section Loop

variable {length : Span} {now boundary final : Instant} {rounds : Nat}

/-- The loop ends, and gives the rounds of its run and the boundary where that stops. -/
theorem crossingRun_cross (length_pos : 0 < length) (now boundary : Instant) :
    CrossingRun length now boundary (cross length length_pos boundary now).1
      (cross length length_pos boundary now).2 := by
  induction boundary using cross.induct length length_pos now with
  | case1 boundary hpassed ih =>
    rw [cross, if_pos hpassed]
    exact .next hpassed ih
  | case2 boundary hahead =>
    rw [cross, if_neg hahead]
    exact .stop hahead

/-- The loop of a call ends, and the call gives its rounds and leaves the clock where it stops. -/
theorem exists_crossingRun {clock : IntervalClock} (hboundary : clock.boundary = some boundary)
    (now : Instant) :
    ∃ rounds final, CrossingRun clock.length now boundary rounds final ∧
      clock.advance now = (rounds, { clock with boundary := some final }) := by
  refine ⟨_, _, crossingRun_cross clock.length_pos now boundary, ?_⟩
  rw [advance, hboundary]

end Loop

/-! ## Section 2: Several calls -/

/-- The clock is asked for several instants: what each call crosses, and the clock after them. -/
def advances (clock : IntervalClock) : List Instant → List Nat × IntervalClock
  | [] => ([], clock)
  | now :: times =>
    let call := clock.advance now
    let rest := call.2.advances times
    (call.1 :: rest.1, rest.2)

/-- Whole intervals up to the latest of several instants. -/
def passedByAll (length : Span) (start : Instant) (times : List Instant) : Nat :=
  (times.map (passed length start)).foldr max 0

section Latest

variable {length : Span} {start : Instant} {times more all : List Instant} {bound : Nat}

theorem passedByAll_le_iff :
    passedByAll length start times ≤ bound ↔ ∀ t ∈ times, passed length start t ≤ bound := by
  induction times with
  | nil => simp [passedByAll]
  | cons now times ih =>
    rw [List.forall_mem_cons, ← ih]
    exact Nat.max_le

theorem passed_le_passedByAll {t : Instant} (h : t ∈ times) :
    passed length start t ≤ passedByAll length start times :=
  passedByAll_le_iff.mp (Nat.le_refl _) t h

/-- Instants that are not later than others add nothing, and the order does not matter. -/
theorem passedByAll_of_perm (hall : all.Perm (times ++ more))
    (hmore : ∀ t ∈ more, ∃ t' ∈ times, t ≤ t') :
    passedByAll length start all = passedByAll length start times := by
  apply Nat.le_antisymm
  · rw [passedByAll_le_iff]
    intro t ht
    rcases List.mem_append.mp (hall.mem_iff.mp ht) with ht | ht
    · exact passed_le_passedByAll ht
    · obtain ⟨t', ht', hle⟩ := hmore t ht
      exact Nat.le_trans (passed_mono length start hle) (passed_le_passedByAll ht')
  · rw [passedByAll_le_iff]
    intro t ht
    exact passed_le_passedByAll (hall.mem_iff.mpr (List.mem_append_left more ht))

end Latest

/-- **Several calls bring the clock to the interval of their latest instant**, and count the
boundaries on the way there. -/
theorem StandsAt.advances {clock : IntervalClock} {start : Instant} {crossed : Nat}
    (h : clock.StandsAt start crossed) (times : List Instant) :
    crossed + (clock.advances times).1.sum =
        max crossed (passedByAll clock.length start times) ∧
      (clock.advances times).2.length = clock.length ∧
      (clock.advances times).2.StandsAt start (crossed + (clock.advances times).1.sum) := by
  -- The first call leaves a clock that stands at more crossings, and the others go on from there
  induction times generalizing clock crossed with
  | nil => exact ⟨(Nat.max_eq_left (Nat.zero_le crossed)).symm, rfl, h⟩
  | cons now times ih =>
    obtain ⟨hcount, hstands⟩ := h.advance now
    obtain ⟨htotal, hlength, hafter⟩ := ih hstands
    rw [length_advance] at htotal hlength
    have hsum : crossed + (clock.advances (now :: times)).1.sum =
        max crossed (passed clock.length start now) +
          ((clock.advance now).2.advances times).1.sum := by
      rw [IntervalClock.advances, List.sum_cons, hcount]
      omega
    rw [hsum]
    refine ⟨?_, hlength, hafter⟩
    rw [htotal, Nat.max_assoc]
    rfl

/-! ## Section 3: A clock that is started -/

/-- **The calls of a clock are path independent.** A clock of any length, if only of the shortest
one, is started and then asked for any instants. Together the calls cross the whole intervals up to
the latest instant, and the next boundary ends the interval after these. The loop of one more call
ends, whatever it is asked for. Other calls in between, or the same ones in another order, change
nothing about the total, as long as they are not later than some call that is made anyway. -/
theorem advances_path_independent (requested : Span) (start : Instant) (times : List Instant) :
    let length := max requested shortest
    let clock := (ofLength requested).start start
    let called := clock.advances times
    let total := called.1.sum
    total = passedByAll length start times ∧
      called.2.boundary = some (start + (total + 1) * length) ∧
      (∀ now, ∃ rounds final,
        CrossingRun length now (start + (total + 1) * length) rounds final ∧
          called.2.advance now = (rounds, { called.2 with boundary := some final })) ∧
      ∀ all more : List Instant, all.Perm (times ++ more) →
        (∀ t ∈ more, ∃ t' ∈ times, t ≤ t') → (clock.advances all).1.sum = total := by
  intro length clock called total
  have hstarted : clock.StandsAt start 0 := standsAt_start (ofLength requested) start
  have htotal (times : List Instant) :
      (clock.advances times).1.sum = passedByAll length start times := by
    have hall := (hstarted.advances times).1
    rwa [Nat.zero_add, Nat.zero_max] at hall
  obtain ⟨-, hlength, hstands⟩ := hstarted.advances times
  rw [Nat.zero_add] at hstands
  have hboundary : called.2.boundary = some (start + (total + 1) * length) := by
    rw [hstands.boundary, hlength]
    rfl
  refine ⟨htotal times, hboundary, ?ends, ?path⟩
  case ends =>
    intro now
    obtain ⟨rounds, final, hrun, hadvance⟩ := exists_crossingRun hboundary now
    rw [hlength] at hrun
    exact ⟨rounds, final, hrun, hadvance⟩
  case path =>
    intro all more hall hmore
    rw [htotal all, passedByAll_of_perm hall hmore]
    exact (htotal times).symm

/-- Intervals of no length are asked for; those of a millisecond are crossed. The total of two calls
stays the same with one more between them and one before the start. -/
theorem two_milliseconds_crossed :
    let clock := (ofLength 0).start 5000000
    let times : List Instant := [7500000, 7000000]
    let all : List Instant := [6000000, 3000000, 7500000, 7000000]
    (all.Perm (times ++ [3000000, 6000000]) ∧
        ∀ t ∈ ([3000000, 6000000] : List Instant), ∃ t' ∈ times, t ≤ t') ∧
      (clock.advances all).1.sum = 2 ∧ (clock.advances times).2.boundary = some 8000000 := by
  intro clock times all
  have hall : all.Perm (times ++ [3000000, 6000000]) := by decide
  have hmore : ∀ t ∈ ([3000000, 6000000] : List Instant), ∃ t' ∈ times, t ≤ t' := by decide
  obtain ⟨htotal, hboundary, -, hpath⟩ := advances_path_independent 0 5000000 times
  have htwo : (clock.advances times).1.sum = 2 := htotal.trans (by decide)
  refine ⟨⟨hall, hmore⟩, (hpath all _ hall hmore).trans htwo, ?_⟩
  rw [hboundary, htwo]
  rfl

end JobScript.IntervalClock
