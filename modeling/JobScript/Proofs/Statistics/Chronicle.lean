import JobScript.Proofs.Statistics.Boundary
import JobScript.Proofs.Statistics.Phase
import Mathlib.Algebra.BigOperators.Group.List.Basic
import Mathlib.Algebra.Order.Ring.Int

/-!
# What Trackers Take In

A tracker sees a sequence of events: starts, stops, observations, and changes of its name and its
listener. A chronicle keeps of them what the statistics are to account for: when the tracker was
started and stopped, and the points it accepted in between. Time that runs backwards is held at
the latest time accepted so far, so every point has an effective time.

## Architecture

- `TrackerEvent`, `Statistics.after`: events, and the statistics after a sequence of them
- `TrackerPhase.next`, `Statistics.phase_take`: the phase after an event
- `Statistics.started_after`, `Statistics.isRunning_of_after`: the phase along events
- `TrackerKind.amount?`: which observations are points of a kind, and what they amount to
- `Chronicle`, `Chronicle.ofEvents`: the accepted points with their effective times
- `Chronicle.amountsIn`: the points of one interval
-/

namespace JobScript

/-! ## Section 1: Events -/

/-- Something that happens to a tracker. -/
inductive TrackerEvent where
  | start (now : Instant)
  | stop (now : Instant)
  | observe (o : Observation) (now : Instant)
  | rename (name : String)
  /-- A job listens from now on -/
  | listen (job : String)

namespace TrackerPhase

/-- The phase after an event. The first start moves it, and the first stop after that. -/
def next : TrackerPhase → TrackerEvent → TrackerPhase
  | .notStarted, .start _ => .running
  | .running, .stop _ => .stopped
  | phase, _ => phase

variable {phase : TrackerPhase} {event : TrackerEvent}

theorem next_ne_notStarted (h : phase ≠ .notStarted) (event : TrackerEvent) :
    phase.next event ≠ .notStarted := by
  cases phase with
  | notStarted => contradiction
  | running => cases event <;> simp [next]
  | stopped => simp [next]

theorem eq_running_of_next (h : phase ≠ .notStarted) (hnext : phase.next event = .running) :
    phase = .running := by
  cases phase with
  | notStarted => contradiction
  | running => rfl
  | stopped => cases hnext

end TrackerPhase

namespace Statistics

/-- The statistics after an event, and the reports it causes. -/
def take (s : Statistics) : TrackerEvent → Statistics × List DataPoint
  | .start now => (s.start now, [])
  | .stop now => s.stop now
  | .observe o now => s.observe o now
  | .rename name => (s.rename name, [])
  | .listen job => (s.listen job, [])

/-- The statistics after a sequence of events. -/
def after (s : Statistics) (events : List TrackerEvent) : Statistics :=
  events.foldl (fun s event => (s.take event).1) s

@[simp] theorem after_cons (s : Statistics) (event : TrackerEvent) (events : List TrackerEvent) :
    s.after (event :: events) = (s.take event).1.after events := rfl

theorem after_append (s : Statistics) (events later : List TrackerEvent) :
    s.after (events ++ later) = (s.after events).after later :=
  List.foldl_append

@[simp] theorem kind_take (s : Statistics) (event : TrackerEvent) :
    (s.take event).1.kind = s.kind := by
  cases event with
  | start now => exact s.kind_start now
  | stop now => exact s.kind_stop now
  | observe o now => exact s.kind_observe now o
  | rename name => exact s.kind_rename name
  | listen job => exact s.kind_listen job

@[simp] theorem kind_after (s : Statistics) (events : List TrackerEvent) :
    (s.after events).kind = s.kind := by
  induction events generalizing s with
  | nil => rfl
  | cons event events ih =>
    rw [after_cons, ih, kind_take]

/-- Statistics of all kinds move by the same events. -/
theorem phase_take (s : Statistics) (event : TrackerEvent) :
    (s.take event).1.core.phase = s.core.phase.next event := by
  cases event with
  | start now =>
    rw [take, phase_start]
    cases s.core.phase <;> rfl
  | stop now =>
    rw [take, phase_stop]
    cases s.core.phase <;> rfl
  | observe o now =>
    rw [take, phase_observe]
    cases s.core.phase <;> rfl
  | rename name =>
    rw [take, phase_rename]
    cases s.core.phase <;> rfl
  | listen job =>
    rw [take, phase_listen]
    cases s.core.phase <;> rfl

/-- Once started, statistics stay so. -/
theorem started_take {s : Statistics} (h : s.core.phase ≠ .notStarted) (event : TrackerEvent) :
    (s.take event).1.core.phase ≠ .notStarted := by
  rw [phase_take]
  exact TrackerPhase.next_ne_notStarted h event

/-- No event makes statistics run that were started before and are not running. -/
theorem isRunning_of_take {s : Statistics} (h : s.core.phase ≠ .notStarted) {event : TrackerEvent}
    (hrunning : (s.take event).1.isRunning = true) : s.isRunning = true := by
  rw [isRunning_iff] at hrunning ⊢
  rw [phase_take] at hrunning
  exact TrackerPhase.eq_running_of_next h hrunning

theorem started_after {s : Statistics} (h : s.core.phase ≠ .notStarted)
    (events : List TrackerEvent) : (s.after events).core.phase ≠ .notStarted := by
  induction events generalizing s with
  | nil => exact h
  | cons event events ih => exact ih (started_take h event)

theorem isRunning_of_after {s : Statistics} (h : s.core.phase ≠ .notStarted)
    {events : List TrackerEvent} (hrunning : (s.after events).isRunning = true) :
    s.isRunning = true := by
  induction events generalizing s with
  | nil => exact hrunning
  | cons event events ih => exact isRunning_of_take h (ih (started_take h event) hrunning)

end Statistics

/-! ## Section 2: Points -/

/-- What an observation amounts to as a point of a kind, given the open timing: one for an
occurrence, the time that a timing took, the value of a sample. Other observations are no points. -/
def TrackerKind.amount? (kind : TrackerKind) (timer : Option Instant) (o : Observation)
    (now : Instant) : Option Int :=
  match kind, o with
  | .incremental, .occurrence => some 1
  | .time, .timerStopped => timer.map fun started => ((now - started : Nat) : Int)
  | .time, .elapsed span => some (span : Nat)
  | .integerValue, .sample value => some value.toInt
  | .categorical, .inCategory _ => some 1
  | _, _ => none

/-- What points of a kind can amount to. -/
def TrackerKind.Admits (kind : TrackerKind) (amount : Int) : Prop :=
  match kind with
  | .incremental | .categorical => amount = 1
  | .time => 0 ≤ amount
  | .integerValue => -2 ^ 31 ≤ amount ∧ amount < 2 ^ 31

/-- The open timing after an observation. -/
def Observation.timerAfter (o : Observation) (timer : Option Instant) (now : Instant) :
    Option Instant :=
  match o with
  | .timerStarted => some now
  | .timerStopped => none
  | _ => timer

/-- What an observation amounts to is something its kind admits. -/
theorem TrackerKind.admits_of_amount? {kind : TrackerKind} {timer : Option Instant}
    {o : Observation} {now : Instant} {amount : Int}
    (h : kind.amount? timer o now = some amount) : kind.Admits amount := by
  unfold amount? at h
  split at h
  · exact (Option.some.inj h).symm
  · obtain ⟨started, -, rfl⟩ := Option.map_eq_some_iff.mp h
    exact Int.natCast_nonneg _
  · obtain rfl := Option.some.inj h
    exact Int.natCast_nonneg _
  · obtain rfl := Option.some.inj h
    exact ⟨Int32.le_toInt _, Int32.toInt_lt _⟩
  · exact (Option.some.inj h).symm
  · cases h

/-! ## Section 3: Chronicles -/

/-- What a tracker has accepted. Times are effective: none lies before an earlier one. -/
structure Chronicle where
  startedAt : Option Instant := none
  /-- The latest of the start and the times of the accepted points -/
  latest : Instant := 0
  /-- Effective times and amounts of the accepted points, in order -/
  points : List (Instant × Int) := []
  stoppedAt : Option Instant := none
  /-- Start of the open timing -/
  timer : Option Instant := none

namespace Chronicle

/-- Points are accepted: the tracker was started and not stopped. -/
def isOpen (c : Chronicle) : Bool :=
  c.startedAt.isSome && c.stoppedAt.isNone

/-- The first start counts. -/
def start (c : Chronicle) (now : Instant) : Chronicle :=
  match c.startedAt with
  | none => { c with startedAt := some now, latest := now }
  | some _ => c

/-- The first stop after the start counts. -/
def stop (c : Chronicle) (now : Instant) : Chronicle :=
  if c.isOpen then { c with stoppedAt := some (max c.latest now), timer := none } else c

/-- Accept a point, at its own time or at the latest one before. -/
def accept (c : Chronicle) (amount : Int) (now : Instant) : Chronicle :=
  { c with
    latest := max c.latest now
    points := c.points ++ [(max c.latest now, amount)] }

/-- Take in an observation of a tracker of some kind. -/
def observe (c : Chronicle) (kind : TrackerKind) (o : Observation) (now : Instant) : Chronicle :=
  if c.isOpen then
    let accepted :=
      match kind.amount? c.timer o now with
      | some amount => c.accept amount now
      | none => c
    { accepted with timer := o.timerAfter c.timer now }
  else c

/-- Take in an event. Names and listeners are no part of a chronicle. -/
def take (c : Chronicle) (kind : TrackerKind) : TrackerEvent → Chronicle
  | .start now => c.start now
  | .stop now => c.stop now
  | .observe o now => c.observe kind o now
  | .rename _ | .listen _ => c

/-- The chronicle of a sequence of events. -/
def ofEvents (kind : TrackerKind) (events : List TrackerEvent) : Chronicle :=
  events.foldl (fun c event => c.take kind event) {}

/-- How far the tracker has come. -/
def phase (c : Chronicle) : TrackerPhase :=
  match c.startedAt, c.stoppedAt with
  | none, _ => .notStarted
  | some _, none => .running
  | some _, some _ => .stopped

/-- Amounts of the points whose effective time lies in interval `i` after the start, in order. -/
def amountsIn (c : Chronicle) (length : Span) (i : Nat) : List Int :=
  let start := c.startedAt.getD 0
  (c.points.filter fun p =>
    decide (i * length ≤ p.1 - start ∧ p.1 - start < (i + 1) * length)).map Prod.snd

/-- Number of the intervals that have ended; a stop ends the one it falls into. -/
def closedCount (c : Chronicle) (length : Span) : Nat :=
  match c.startedAt, c.stoppedAt with
  | none, _ => 0
  | some start, none => (c.latest - start) / length
  | some start, some stop => (stop - start) / length + 1

theorem isOpen_iff (c : Chronicle) :
    c.isOpen = true ↔ ∃ start, c.startedAt = some start ∧ c.stoppedAt = none := by
  simp [isOpen, Option.isSome_iff_exists]

/-! ## Section 4: Chronicles are well formed -/

/-- Effective times lie between the start and the stop, amounts fit the kind, and nothing is kept
from outside that time. -/
structure WellFormed (kind : TrackerKind) (c : Chronicle) : Prop where
  unstarted : c.startedAt = none → c.points = [] ∧ c.stoppedAt = none
  le_latest : ∀ p ∈ c.points, p.1 ≤ c.latest
  latest_le : ∀ stop, c.stoppedAt = some stop → c.latest ≤ stop
  timer_of_closed : c.isOpen = false → c.timer = none
  admits : ∀ p ∈ c.points, kind.Admits p.2

variable {kind : TrackerKind} {c : Chronicle}

theorem wellFormed_start (h : c.WellFormed kind) (now : Instant) :
    (c.start now).WellFormed kind := by
  unfold start
  split
  · rename_i hnone
    obtain ⟨hpoints, hstop⟩ := h.unstarted hnone
    -- Nothing was accepted before the start, so there is nothing to check
    have htimer : c.timer = none := h.timer_of_closed (by simp [isOpen, hnone])
    constructor
    · intro hsome
      cases hsome
    · simp [hpoints]
    · simp [hstop]
    · exact fun _ => htimer
    · exact h.admits
  · exact h

theorem wellFormed_stop (h : c.WellFormed kind) (now : Instant) :
    (c.stop now).WellFormed kind := by
  unfold stop
  split
  · rename_i hopen
    obtain ⟨start, hstart, -⟩ := c.isOpen_iff.mp hopen
    constructor
    · exact fun hnone => absurd (hstart.symm.trans hnone) (by simp)
    · exact h.le_latest
    · intro stop hstop
      obtain rfl := Option.some.inj hstop
      exact Nat.le_max_left _ _
    · exact fun _ => rfl
    · exact h.admits
  · exact h

theorem wellFormed_accept (h : c.WellFormed kind) (hopen : c.isOpen = true) {amount : Int}
    (hamount : kind.Admits amount) (now : Instant) : (c.accept amount now).WellFormed kind := by
  obtain ⟨start, hstart, hstop⟩ := c.isOpen_iff.mp hopen
  constructor
  · exact fun hnone => absurd (hstart.symm.trans hnone) (by simp)
  · intro p hp
    rcases List.mem_append.mp hp with hp | hp
    · exact Nat.le_trans (h.le_latest p hp) (Nat.le_max_left _ _)
    · obtain rfl := List.mem_singleton.mp hp
      exact Nat.le_refl _
  · exact fun stop hsome => absurd (hstop.symm.trans hsome) (by simp)
  · exact h.timer_of_closed
  · intro p hp
    rcases List.mem_append.mp hp with hp | hp
    · exact h.admits p hp
    · obtain rfl := List.mem_singleton.mp hp
      exact hamount

/-- The open timing may change while points are accepted. -/
theorem wellFormed_timer (h : c.WellFormed kind) (hopen : c.isOpen = true)
    (timer : Option Instant) : { c with timer }.WellFormed kind where
  unstarted := h.unstarted
  le_latest := h.le_latest
  latest_le := h.latest_le
  timer_of_closed := fun hclosed => absurd (hopen.symm.trans hclosed) (by decide)
  admits := h.admits

theorem wellFormed_take (h : c.WellFormed kind) (event : TrackerEvent) :
    (c.take kind event).WellFormed kind := by
  cases event with
  | start now => exact wellFormed_start h now
  | stop now => exact wellFormed_stop h now
  | observe o now =>
    simp only [take, observe]
    split
    · rename_i hopen
      split
      · rename_i amount hamount
        have hadmits := TrackerKind.admits_of_amount? hamount
        exact wellFormed_timer (wellFormed_accept h hopen hadmits now) hopen _
      · exact wellFormed_timer h hopen _
    · exact h
  | rename name => exact h
  | listen job => exact h

/-- Every chronicle of events is well formed. -/
theorem wellFormed_ofEvents (kind : TrackerKind) (events : List TrackerEvent) :
    (ofEvents kind events).WellFormed kind := by
  unfold ofEvents
  apply List.foldlRecOn
  · exact ⟨fun _ => ⟨rfl, rfl⟩, by simp, by simp, fun _ => rfl, by simp⟩
  · exact fun c h event _ => wellFormed_take h event

/-! ## Section 5: The points of an interval -/

variable {length : Span}

/-- Interval `i` has the points with `i` whole intervals before them. -/
theorem amountsIn_eq (length_pos : 0 < length) (i : Nat) :
    c.amountsIn length i =
      (c.points.filter fun p =>
        decide (IntervalClock.passed length (c.startedAt.getD 0) p.1 = i)).map Prod.snd := by
  simp only [amountsIn, IntervalClock.passed_eq_iff length_pos]

/-- Accepting a point adds it to the interval of its effective time and to no other. -/
theorem amountsIn_accept (length_pos : 0 < length) (amount : Int) (now : Instant) (i : Nat) :
    (c.accept amount now).amountsIn length i =
      if IntervalClock.passed length (c.startedAt.getD 0) (max c.latest now) = i
      then c.amountsIn length i ++ [amount] else c.amountsIn length i := by
  simp only [amountsIn_eq length_pos, accept, List.filter_append, List.map_append]
  split
  · rename_i hi
    simp [hi]
  · rename_i hi
    simp [hi]

/-- No point lies beyond the interval of the latest time. -/
theorem amountsIn_eq_nil (h : c.WellFormed kind) (length_pos : 0 < length) {i : Nat}
    (hi : IntervalClock.passed length (c.startedAt.getD 0) c.latest < i) :
    c.amountsIn length i = [] := by
  rw [amountsIn_eq length_pos, List.map_eq_nil_iff, List.filter_eq_nil_iff]
  intro p hp heq
  have hle := IntervalClock.passed_mono length (c.startedAt.getD 0) (h.le_latest p hp)
  simp only [decide_eq_true_eq] at heq
  omega

/-- Each number below a bound is counted once below that bound. -/
private theorem sum_map_indicator {n bound : Nat} (h : n < bound) :
    ((List.range bound).map fun i => if n = i then 1 else 0).sum = 1 := by
  induction bound with
  | zero => exact absurd h (Nat.not_lt_zero n)
  | succ bound ih =>
    -- `n` is among the numbers below the bound, or it is the last one
    rw [List.range_succ, List.map_append, List.sum_append]
    rcases Nat.lt_succ_iff_lt_or_eq.mp h with hlt | rfl
    · simp [ih hlt, Nat.ne_of_lt hlt]
    · have hzero : ((List.range n).map fun i => if n = i then 1 else 0) =
          (List.range n).map fun _ => 0 :=
        List.map_congr_left fun i hi => if_neg (Nat.ne_of_gt (List.mem_range.mp hi))
      simp [hzero]

/-- **No point is lost or counted twice**: each lies in one interval up to the latest one. -/
theorem sum_length_amountsIn (length_pos : 0 < length) {bound : Nat}
    (h : ∀ p ∈ c.points, IntervalClock.passed length (c.startedAt.getD 0) p.1 < bound) :
    ((List.range bound).map fun i => (c.amountsIn length i).length).sum = c.points.length := by
  simp only [amountsIn_eq length_pos, List.length_map]
  generalize c.points = points at h
  -- Each point is counted in the one interval that it lies in
  induction points with
  | nil => simp
  | cons p points ih =>
    have hp := sum_map_indicator (h p List.mem_cons_self)
    have hpoints := ih fun q hq => h q (List.mem_cons_of_mem p hq)
    have hsplit (i : Nat) :
        ((p :: points).filter fun q =>
            decide (IntervalClock.passed length (c.startedAt.getD 0) q.1 = i)).length =
          (if IntervalClock.passed length (c.startedAt.getD 0) p.1 = i then 1 else 0) +
            (points.filter fun q =>
              decide (IntervalClock.passed length (c.startedAt.getD 0) q.1 = i)).length := by
      rw [List.filter_cons]
      split <;> simp_all [Nat.add_comm]
    simp only [hsplit, List.sum_map_add, hp, hpoints, List.length_cons]
    omega

end Chronicle

end JobScript
