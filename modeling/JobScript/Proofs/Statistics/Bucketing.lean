import JobScript.Proofs.Statistics.Chronicle
import JobScript.Proofs.Statistics.Phase

/-!
# Collectors Follow Chronicles

A collector closes intervals late, several at a time. Its buckets are nevertheless those of its
chronicle: one for every interval that has ended, and the open one, each with the points of that
interval in it and no others.

## Architecture

- `Collector.buckets_roll`: closing intervals appends empty buckets
- `Chronicle.bucketIn`: what the points of an interval add up to
- `Collector.Follows`: the invariant that ties a collector to a chronicle
- `Collector.Follows.start`, `Collector.Follows.record`, `Collector.Follows.stop`: every step
  keeps it
-/

namespace JobScript

/-! ## Section 1: Buckets while intervals are closed -/

namespace Collector

/-- The buckets determine the closed ones and the open one. -/
theorem buckets_eq_append {β : Type} {t : Collector β} {closed : List β} {current : β}
    (h : t.buckets = closed ++ [current]) : t.closed = closed ∧ t.current = current := by
  obtain ⟨hclosed, hcurrent⟩ := List.append_inj' h rfl
  exact ⟨hclosed, List.head_eq_of_cons_eq hcurrent⟩

variable {β : Type} [Bucket β] (t : Collector β) (now : Instant)

@[simp] theorem buckets_close : t.close.1.buckets = t.buckets ++ [Bucket.empty] := rfl

@[simp] theorem buckets_closeMany (count : Nat) :
    (closeMany count t).1.buckets = t.buckets ++ List.replicate count Bucket.empty := by
  induction count generalizing t with
  | zero => exact (List.append_nil _).symm
  | succ count ih =>
    have hrest := ih t.close.1
    rw [buckets_close, List.append_assoc] at hrest
    exact hrest

@[simp] theorem buckets_roll :
    (t.roll now).1.buckets =
      t.buckets ++ List.replicate (t.core.clock.advance now).1 Bucket.empty := by
  rw [roll, buckets_closeMany]
  rfl

/-- A stop closes one interval more than have ended by then. -/
theorem buckets_stop (hrunning : t.core.phase = .running) :
    (t.stop now).1.buckets = (t.roll now).1.buckets ++ [Bucket.empty] := by
  rw [stop, if_pos (t.core.isRunning_iff.mpr hrunning)]
  rfl

end Collector

/-! ## Section 2: What the points of an interval add up to -/

namespace Chronicle

variable {β : Type} [Bucket β] {kind : TrackerKind} {add : β → Int → β} {length : Span}
  {c : Chronicle}

/-- The bucket of an interval: its points, added one after the other. -/
def bucketIn (add : β → Int → β) (c : Chronicle) (length : Span) (i : Nat) : β :=
  (c.amountsIn length i).foldl add Bucket.empty

/-- While points are accepted, the intervals up to the latest time have ended. -/
theorem closedCount_of_open (length : Span) {start : Instant} (hstart : c.startedAt = some start)
    (hstop : c.stoppedAt = none) :
    c.closedCount length = IntervalClock.passed length start c.latest := by
  simp only [closedCount, hstart, hstop, IntervalClock.passed]

/-- Intervals beyond the latest time are empty. -/
theorem bucketIn_eq_empty (h : c.WellFormed kind) (length_pos : 0 < length) {i : Nat}
    (hi : IntervalClock.passed length (c.startedAt.getD 0) c.latest < i) :
    c.bucketIn add length i = Bucket.empty := by
  rw [bucketIn, amountsIn_eq_nil h length_pos hi]
  rfl

/-- A point is added to the bucket of its interval. -/
theorem bucketIn_accept (length_pos : 0 < length) (amount : Int) (now : Instant) (i : Nat) :
    (c.accept amount now).bucketIn add length i =
      if IntervalClock.passed length (c.startedAt.getD 0) (max c.latest now) = i
      then add (c.bucketIn add length i) amount else c.bucketIn add length i := by
  rw [bucketIn, amountsIn_accept length_pos]
  split
  · rw [List.foldl_append]
    rfl
  · rfl

/-- The buckets up to an interval, and empty ones after it, are the buckets up to a later one. -/
theorem map_bucketIn_append_empty {count : Nat} (more : Nat)
    (h : ∀ i, count ≤ i → c.bucketIn add length i = Bucket.empty) :
    (List.range count).map (c.bucketIn add length) ++ List.replicate more Bucket.empty =
      (List.range (count + more)).map (c.bucketIn add length) := by
  rw [List.range_add, List.map_append, List.map_map]
  congr 1
  symm
  rw [List.eq_replicate_iff]
  refine ⟨by simp, ?_⟩
  intro b hb
  obtain ⟨i, -, rfl⟩ := List.mem_map.mp hb
  exact h (count + i) (Nat.le_add_right count i)

end Chronicle

/-! ## Section 3: The invariant -/

/-- The collector stands where the chronicle does: in the same phase, its clock behind the
intervals that have ended, and in its buckets the points of every interval. -/
structure Collector.Follows {β : Type} [Bucket β] (add : β → Int → β) (length : Span)
    (c : Chronicle) (t : Collector β) : Prop where
  length_eq : t.core.clock.length = length
  phase : t.core.phase = c.phase
  standsAt : ∀ start, c.startedAt = some start → c.stoppedAt = none →
    t.core.clock.StandsAt start (c.closedCount length)
  buckets : t.buckets = (List.range (c.closedCount length + 1)).map (c.bucketIn add length)

namespace Chronicle

variable {c : Chronicle}

theorem phase_eq_running_iff : c.phase = .running ↔ c.isOpen = true := by
  unfold phase isOpen
  cases c.startedAt <;> cases c.stoppedAt <;> simp

theorem phase_eq_notStarted_iff : c.phase = .notStarted ↔ c.startedAt = none := by
  unfold phase
  cases c.startedAt <;> cases c.stoppedAt <;> simp

theorem phase_eq_stopped_iff :
    c.phase = .stopped ↔ ∃ start stop, c.startedAt = some start ∧ c.stoppedAt = some stop := by
  unfold phase
  cases c.startedAt <;> cases c.stoppedAt <;> simp

end Chronicle

namespace Collector.Follows

variable {β : Type} [Bucket β] {kind : TrackerKind} {add : β → Int → β} {length : Span}
  {c : Chronicle} {t : Collector β}

theorem isRunning_eq (h : t.Follows add length c) : t.core.isRunning = c.isOpen := by
  rw [Bool.eq_iff_iff, TrackerCore.isRunning_iff, h.phase, Chronicle.phase_eq_running_iff]

/-- Only clock, phase and buckets matter. -/
theorem of_core {t' : Collector β} (h : t.Follows add length c)
    (hclock : t'.core.clock = t.core.clock) (hphase : t'.core.phase = t.core.phase)
    (hbuckets : t'.buckets = t.buckets) : t'.Follows add length c where
  length_eq := by rw [hclock, h.length_eq]
  phase := hphase.trans h.phase
  standsAt := by
    rw [hclock]
    exact h.standsAt
  buckets := hbuckets.trans h.buckets

/-- The open timing does not matter. -/
theorem timer (h : t.Follows add length c) (timer : Option Instant) :
    t.Follows add length { c with timer } :=
  ⟨h.length_eq, h.phase, h.standsAt, h.buckets⟩

theorem length_pos (h : t.Follows add length c) : 0 < length := by
  rw [← h.length_eq]
  exact t.core.clock.length_pos

/-- A collector that has not started. -/
theorem ofContext (add : β → Int → β) (name : String) (context : CollectionContext) :
    (Collector.ofContext name context : Collector β).Follows add
      (IntervalClock.ofLength context.interval).length {} where
  length_eq := rfl
  phase := rfl
  standsAt := fun start hstart => by cases hstart
  buckets := rfl

/-! ### Starting -/

theorem start (h : t.Follows add length c) (wf : c.WellFormed kind) (now : Instant) :
    (t.start now).Follows add length (c.start now) := by
  cases hstarted : c.startedAt with
  | some start =>
    -- A second start changes neither side
    have hphase : t.core.phase ≠ .notStarted := by
      rw [h.phase, Ne, Chronicle.phase_eq_notStarted_iff, hstarted]
      simp
    have hc : c.start now = c := by simp only [Chronicle.start, hstarted]
    rw [hc]
    refine h.of_core ?_ ?_ ?_
    · exact congrArg TrackerCore.clock (TrackerCore.start_of_started now hphase)
    · exact congrArg TrackerCore.phase (TrackerCore.start_of_started now hphase)
    · rfl
  | none =>
    obtain ⟨hpoints, hstopped⟩ := wf.unstarted hstarted
    have hphase : t.core.phase = .notStarted := by
      rw [h.phase, Chronicle.phase_eq_notStarted_iff, hstarted]
    have hc : c.start now = { c with startedAt := some now, latest := now } := by
      simp only [Chronicle.start, hstarted]
    have hcore : t.core.start now =
        { t.core with phase := .running, clock := t.core.clock.start now } := by
      simp only [TrackerCore.start, hphase]
    have hcount : (c.start now).closedCount length = 0 := by
      simp only [hc, Chronicle.closedCount, hstopped, Nat.sub_self, Nat.zero_div]
    have hbuckets := h.buckets
    constructor
    · simp only [Collector.start, hcore]
      exact h.length_eq
    · simp only [Collector.start, hcore, hc, Chronicle.phase, hstopped]
    · intro start hstart _
      rw [hcount]
      simp only [Collector.start, hcore]
      simp only [hc, Option.some.injEq] at hstart
      subst hstart
      exact IntervalClock.standsAt_start t.core.clock now
    · -- Without points, every bucket is empty
      have hempty (start : Option Instant) (latest : Instant) :
          { c with startedAt := start, latest }.bucketIn add length 0 = Bucket.empty := by
        simp only [Chronicle.bucketIn, Chronicle.amountsIn, hpoints]
        rfl
      rw [hcount]
      simp only [Chronicle.closedCount, hstarted] at hbuckets
      rw [hc]
      refine hbuckets.trans ?_
      simp only [List.range_one, List.map_cons, List.map_nil, List.cons.injEq, and_true,
        Nat.zero_add]
      exact (hempty c.startedAt c.latest).trans (hempty (some now) now).symm

/-! ### Closing intervals -/

/-- While points are accepted, rolling closes the intervals that have ended by then. -/
theorem roll (h : t.Follows add length c) (wf : c.WellFormed kind) {start : Instant}
    (hstart : c.startedAt = some start) (hstop : c.stoppedAt = none) (now : Instant) :
    (t.roll now).1.core.clock.StandsAt start
        (IntervalClock.passed length start (max c.latest now)) ∧
      (t.roll now).1.buckets =
        (List.range (IntervalClock.passed length start (max c.latest now) + 1)).map
          (c.bucketIn add length) := by
  have hcount := Chronicle.closedCount_of_open length hstart hstop
  -- The clock crosses as many boundaries as intervals have ended since the latest point
  obtain ⟨hcrossed, hclock⟩ := (h.standsAt start hstart hstop).advance now
  rw [h.length_eq, hcount] at hcrossed hclock
  rw [IntervalClock.passed_max]
  refine ⟨by rw [Collector.clock_roll]; exact hclock, ?_⟩
  -- The intervals that are rolled over have no points in them
  have hempty : ∀ i, IntervalClock.passed length start c.latest + 1 ≤ i →
      c.bucketIn add length i = Bucket.empty := by
    intro i hi
    apply Chronicle.bucketIn_eq_empty wf h.length_pos
    rw [hstart]
    exact hi
  rw [Collector.buckets_roll, h.buckets, hcrossed, hcount,
    Chronicle.map_bucketIn_append_empty _ hempty]
  congr 2
  omega

/-- A point that is accepted goes into the bucket of its interval. -/
theorem record (h : t.Follows add length c) (wf : c.WellFormed kind) (hopen : c.isOpen = true)
    (amount : Int) (now : Instant) :
    (t.record now (add · amount)).1.Follows add length (c.accept amount now) := by
  obtain ⟨start, hstart, hstop⟩ := c.isOpen_iff.mp hopen
  obtain ⟨hclock, hbuckets⟩ := h.roll wf hstart hstop now
  have hrunning : t.core.isRunning = true := h.isRunning_eq.trans hopen
  have hrecord : (t.record now (add · amount)).1 =
      { (t.roll now).1 with current := add (t.roll now).1.current amount } := by
    simp only [Collector.record, hrunning, if_true]
  have hcount : (c.accept amount now).closedCount length =
      IntervalClock.passed length start (max c.latest now) :=
    Chronicle.closedCount_of_open length hstart hstop
  rw [hrecord]
  constructor
  · have hlength := h.length_eq
    rw [← IntervalClock.length_advance t.core.clock now, ← Collector.clock_roll] at hlength
    exact hlength
  · exact (Collector.phase_roll t now).trans h.phase
  · intro start' hstart' _
    obtain rfl := Option.some.inj (hstart.symm.trans hstart')
    rw [hcount]
    exact hclock
  · rw [hcount]
    have hpassed : IntervalClock.passed length (c.startedAt.getD 0) (max c.latest now) =
        IntervalClock.passed length start (max c.latest now) := by
      rw [hstart]
      rfl
    generalize IntervalClock.passed length start (max c.latest now) = n at hbuckets hpassed
    rw [List.range_succ, List.map_append, List.map_singleton] at hbuckets ⊢
    obtain ⟨hclosed, hcurrent⟩ := Collector.buckets_eq_append hbuckets
    -- The bucket of the point is the open one; the closed ones stay as they are
    have hothers : (List.range n).map ((c.accept amount now).bucketIn add length) =
        (List.range n).map (c.bucketIn add length) := by
      apply List.map_congr_left
      intro i hi
      rw [Chronicle.bucketIn_accept h.length_pos, hpassed,
        if_neg (Nat.ne_of_gt (List.mem_range.mp hi))]
    rw [hothers, Chronicle.bucketIn_accept h.length_pos, hpassed, if_pos rfl, ← hclosed,
      ← hcurrent]
    rfl

/-- A stop closes the interval it falls into. -/
theorem stop_of_open (h : t.Follows add length c) (wf : c.WellFormed kind) (hopen : c.isOpen = true)
    (now : Instant) : (t.stop now).1.Follows add length (c.stop now) := by
  obtain ⟨start, hstart, hstop⟩ := c.isOpen_iff.mp hopen
  obtain ⟨-, hbuckets⟩ := h.roll wf hstart hstop now
  have hrunning : t.core.isRunning = true := h.isRunning_eq.trans hopen
  have hphase := Collector.phase_stop t now
  rw [TrackerCore.isRunning_iff] at hrunning
  rw [if_pos hrunning] at hphase
  have hc : c.stop now = { c with stoppedAt := some (max c.latest now), timer := none } :=
    if_pos hopen
  have hcount : (c.stop now).closedCount length =
      IntervalClock.passed length start (max c.latest now) + 1 := by
    simp only [hc, Chronicle.closedCount, hstart, IntervalClock.passed]
  constructor
  · rw [Collector.clock_stop t now hrunning, IntervalClock.length_advance]
    exact h.length_eq
  · rw [hphase, hc, eq_comm, Chronicle.phase_eq_stopped_iff]
    exact ⟨start, max c.latest now, hstart, rfl⟩
  · intro _ _ hnone
    rw [hc] at hnone
    cases hnone
  · -- The open bucket after the stop lies beyond the latest point
    have hempty : c.bucketIn add length
        (IntervalClock.passed length start (max c.latest now) + 1) = Bucket.empty := by
      apply Chronicle.bucketIn_eq_empty wf h.length_pos
      rw [hstart]
      exact Nat.lt_succ_of_le (IntervalClock.passed_mono length start (Nat.le_max_left _ _))
    rw [Collector.buckets_stop t now hrunning, hbuckets, hcount, hc, List.range_succ (n := _ + 1),
      List.map_append, List.map_singleton, ← hempty]
    rfl

theorem stop (h : t.Follows add length c) (wf : c.WellFormed kind) (now : Instant) :
    (t.stop now).1.Follows add length (c.stop now) := by
  cases hopen : c.isOpen with
  | true => exact h.stop_of_open wf hopen now
  | false =>
    have hidle : t.core.isRunning = false := h.isRunning_eq.trans hopen
    have hc : c.stop now = c := if_neg (Bool.eq_false_iff.mp hopen)
    rw [Collector.stop_of_not_running now hidle, hc]
    exact h

end Collector.Follows

end JobScript
