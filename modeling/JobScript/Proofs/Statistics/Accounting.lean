import JobScript.Proofs.Statistics.Bucketing

/-!
# Statistics Follow Chronicles

Statistics of every kind account for what they took in: their phase, their open timing and their
buckets, or their categories, are those of the chronicle of the same events.

## Architecture

- `Statistics.Follows`: the invariant, by kind
- `Statistics.Follows.start`, `Statistics.Follows.stop`, `Statistics.Follows.observe`: every event
  keeps it
- `Statistics.follows_after`: it holds after any sequence of events
-/

namespace JobScript

/-! ## Section 1: Points of every kind -/

/-- An occurrence is one, whatever it amounts to. -/
def Occurrences.addPoint (o : Occurrences) (_ : Int) : Occurrences :=
  o.increment

def Timings.addPoint (timings : Timings) (amount : Int) : Timings :=
  timings.add amount.toNat

def Samples.addPoint (samples : Samples) (amount : Int) : Samples :=
  samples.merge ⟨1, amount⟩

/-- The categories count all points, and the slots lead to categories. -/
structure CategoricalTracker.Follows (c : Chronicle) (t : CategoricalTracker) : Prop where
  phase : t.core.phase = c.phase
  total : t.totalCount = c.points.length
  slots : ∀ entry ∈ t.slots, entry.2 < t.counts.length

/-- The statistics account for the points of a chronicle, in intervals of a length. -/
def Statistics.Follows (length : Span) (c : Chronicle) : Statistics → Prop
  | .incremental t => Collector.Follows Occurrences.addPoint length c t
  | .time t => t.intervals.Follows Timings.addPoint length c ∧ t.timer = c.timer
  | .integerValue t => t.intervals.Follows Samples.addPoint length c
  | .categorical t => t.Follows c

/-! ## Section 2: Categories -/

namespace CategoricalTracker

theorem totalCount_eq_sum (t : CategoricalTracker) :
    t.totalCount = (t.counts.map Prod.snd).sum :=
  rfl

/-- One more in one slot is one more in all. -/
private theorem sum_modify {counts : List (String × Nat)} {slot : Nat}
    (h : slot < counts.length) :
    ((counts.modify slot fun entry => (entry.1, entry.2 + 1)).map Prod.snd).sum =
      (counts.map Prod.snd).sum + 1 := by
  rw [List.modify_eq_take_cons_drop h]
  have hsplit : counts = counts.take slot ++ counts[slot] :: counts.drop (slot + 1) := by
    rw [List.getElem_cons_drop, List.take_append_drop]
  have hsum := congrArg (fun l => (l.map Prod.snd).sum) hsplit
  simp only [List.map_append, List.map_cons, List.sum_append, List.sum_cons] at hsum ⊢
  omega

namespace Follows

variable {c : Chronicle} {t : CategoricalTracker}

/-- Only phase and points of the chronicle matter. -/
theorem of_points {c' : Chronicle} (h : t.Follows c) (hphase : c'.phase = c.phase)
    (hpoints : c'.points = c.points) : t.Follows c' :=
  ⟨h.phase.trans hphase.symm, by rw [hpoints]; exact h.total, h.slots⟩

/-- An occurrence is counted in its category, new or not. -/
theorem increment (h : t.Follows c) (hopen : c.isOpen = true) (category : String) (amount : Int)
    (now : Instant) : (t.increment category).Follows (c.accept amount now) := by
  have hrunning : t.core.isRunning = true := by
    rw [TrackerCore.isRunning_iff, h.phase, Chronicle.phase_eq_running_iff, hopen]
  have htotal := h.total
  rw [totalCount_eq_sum] at htotal
  unfold CategoricalTracker.increment
  rw [if_pos hrunning]
  split
  · rename_i slot hslot
    obtain ⟨before, after, hslots, -⟩ := List.lookup_eq_some_iff.mp hslot
    -- A category that was seen counts in its slot
    have hlt : slot < t.counts.length := h.slots (category, slot) (by simp [hslots])
    constructor
    · exact h.phase
    · simp only [totalCount_eq_sum, sum_modify hlt, htotal, Chronicle.accept, List.length_append,
        List.length_singleton]
    · intro entry hentry
      rw [List.length_modify]
      exact h.slots entry hentry
  · constructor
    · exact h.phase
    · simp only [totalCount_eq_sum, List.map_append, List.sum_append, htotal, Chronicle.accept,
        List.length_append, List.length_singleton, List.map_singleton, List.sum_singleton]
    · intro entry hentry
      rw [List.length_append, List.length_singleton]
      rcases List.mem_cons.mp hentry with rfl | hentry
      · exact Nat.lt_succ_self _
      · exact Nat.lt_succ_of_lt (h.slots entry hentry)

end Follows

end CategoricalTracker

/-! ## Section 3: Chronicles -/

namespace Chronicle

variable {kind : TrackerKind} {c : Chronicle}

@[simp] theorem timer_start (now : Instant) : (c.start now).timer = c.timer := by
  unfold start
  split <;> rfl

@[simp] theorem points_start (now : Instant) : (c.start now).points = c.points := by
  unfold start
  split <;> rfl

@[simp] theorem points_stop (now : Instant) : (c.stop now).points = c.points := by
  unfold stop
  split <;> rfl

theorem phase_start (wf : c.WellFormed kind) (now : Instant) :
    (c.start now).phase = if c.phase = .notStarted then .running else c.phase := by
  cases hstarted : c.startedAt with
  | none =>
    obtain ⟨-, hstopped⟩ := wf.unstarted hstarted
    simp only [start, phase, hstarted, hstopped, if_true]
  | some start =>
    have hphase : c.phase ≠ .notStarted := by
      rw [Ne, phase_eq_notStarted_iff, hstarted]
      simp
    rw [if_neg hphase]
    simp only [Chronicle.start, hstarted]

theorem phase_stop (now : Instant) :
    (c.stop now).phase = if c.phase = .running then .stopped else c.phase := by
  cases hopen : c.isOpen with
  | true =>
    obtain ⟨start, hstart, -⟩ := c.isOpen_iff.mp hopen
    rw [if_pos (phase_eq_running_iff.mpr hopen)]
    simp only [stop, hopen, if_true, phase, hstart]
  | false =>
    rw [if_neg (mt phase_eq_running_iff.mp (Bool.eq_false_iff.mp hopen))]
    simp only [stop, hopen, Bool.false_eq_true, if_false]

theorem observe_of_closed (hclosed : c.isOpen = false) (kind : TrackerKind) (o : Observation)
    (now : Instant) : c.observe kind o now = c :=
  if_neg (Bool.eq_false_iff.mp hclosed)

/-- While points are accepted, an observation is a point or none, and may change the timing. -/
theorem observe_of_open (hopen : c.isOpen = true) (kind : TrackerKind) (o : Observation)
    (now : Instant) :
    c.observe kind o now =
      { (match kind.amount? c.timer o now with
          | some amount => c.accept amount now
          | none => c) with timer := o.timerAfter c.timer now } :=
  if_pos hopen

end Chronicle

/-! ## Section 4: Events -/

namespace Statistics.Follows

variable {length : Span} {c : Chronicle} {s : Statistics}

theorem phase_eq (h : s.Follows length c) : s.core.phase = c.phase := by
  cases s with
  | incremental t => exact Collector.Follows.phase h
  | time t => exact h.1.phase
  | integerValue t => exact Collector.Follows.phase h
  | categorical t => exact CategoricalTracker.Follows.phase h

theorem isRunning_eq (h : s.Follows length c) : s.isRunning = c.isOpen := by
  rw [Bool.eq_iff_iff, isRunning_iff, h.phase_eq, Chronicle.phase_eq_running_iff]

/-- Without an open timing in the chronicle, there is none in the statistics. -/
theorem timer_eq_none (h : s.Follows length c) (htimer : c.timer = none) : s.timer = none := by
  cases s with
  | time t => exact h.2.trans htimer
  | _ => rfl

/-- A change of the core that keeps clock and phase. -/
theorem mapCore (h : s.Follows length c) {f : TrackerCore → TrackerCore}
    (hclock : ∀ core, (f core).clock = core.clock) (hphase : ∀ core, (f core).phase = core.phase) :
    (s.mapCore f).Follows length c := by
  cases s with
  | incremental t => exact Collector.Follows.of_core h (hclock t.core) (hphase t.core) rfl
  | time t => exact ⟨h.1.of_core (hclock t.intervals.core) (hphase t.intervals.core) rfl, h.2⟩
  | integerValue t =>
    exact Collector.Follows.of_core h (hclock t.intervals.core) (hphase t.intervals.core) rfl
  | categorical t =>
    obtain ⟨hsame, htotal, hslots⟩ := h
    exact ⟨(hphase t.core).trans hsame, htotal, hslots⟩

theorem start (h : s.Follows length c) (wf : c.WellFormed s.kind) (now : Instant) :
    (s.start now).Follows length (c.start now) := by
  cases s with
  | incremental t => exact Collector.Follows.start h wf now
  | time t => exact ⟨h.1.start wf now, by rw [Chronicle.timer_start]; exact h.2⟩
  | integerValue t => exact Collector.Follows.start h wf now
  | categorical t =>
    obtain ⟨hsame, htotal, hslots⟩ := h
    constructor
    · show (t.core.start now).phase = _
      rw [TrackerCore.phase_start, Chronicle.phase_start wf, hsame]
    · rw [Chronicle.points_start]
      exact htotal
    · exact hslots

theorem stop (h : s.Follows length c) (wf : c.WellFormed s.kind) (now : Instant) :
    (s.stop now).1.Follows length (c.stop now) := by
  cases s with
  | incremental t => exact Collector.Follows.stop h wf now
  | time t =>
    obtain ⟨hintervals, htimer⟩ := h
    cases hopen : c.isOpen with
    | true =>
      have hstop : t.stop now =
          ({ t with timer := none, intervals := (t.intervals.stop now).1 },
            (t.intervals.stop now).2) :=
        if_pos (hintervals.isRunning_eq.trans hopen)
      have hc : (c.stop now).timer = none := by simp only [Chronicle.stop, hopen, if_true]
      simp only [Statistics.stop, hstop]
      exact ⟨hintervals.stop wf now, hc.symm⟩
    | false =>
      have hidle : t.intervals.core.isRunning = false := hintervals.isRunning_eq.trans hopen
      have hc : c.stop now = c := if_neg (Bool.eq_false_iff.mp hopen)
      simp only [Statistics.stop, TimeTracker.stop_of_not_running now hidle, hc]
      exact ⟨hintervals, htimer⟩
  | integerValue t => exact Collector.Follows.stop h wf now
  | categorical t =>
    obtain ⟨hsame, htotal, hslots⟩ := h
    constructor
    · show (t.core.finish now).phase = _
      rw [TrackerCore.phase_finish, Chronicle.phase_stop, hsame]
    · rw [Chronicle.points_stop]
      exact htotal
    · exact hslots

theorem observe_of_open (h : s.Follows length c) (wf : c.WellFormed s.kind)
    (hopen : c.isOpen = true) (o : Observation) (now : Instant) :
    (s.observe o now).1.Follows length (c.observe s.kind o now) := by
  rw [Chronicle.observe_of_open hopen]
  cases s with
  | incremental t =>
    cases o with
    | occurrence => exact (Collector.Follows.record h wf hopen 1 now).timer _
    | _ => exact Collector.Follows.timer h _
  | time t =>
    obtain ⟨hintervals, htimer⟩ := h
    have hrunning : t.intervals.core.isRunning = true := hintervals.isRunning_eq.trans hopen
    -- A timing that has ended is recorded with what it took
    have hrecord (t' : TimeTracker) (hsame : t'.intervals = t.intervals) (elapsed : Span) :
        (t'.record elapsed now).1.intervals.Follows Timings.addPoint length
          (c.accept (elapsed : Nat) now) ∧ (t'.record elapsed now).1.timer = t'.timer := by
      simp only [TimeTracker.record, hsame, hrunning, if_true, and_true]
      exact hintervals.record wf hopen (elapsed : Nat) now
    cases o with
    | timerStarted =>
      -- A new timing replaces an open one on both sides
      simp only [observe, TimeTracker.startTimer, hrunning, if_true]
      exact ⟨hintervals.timer _, rfl⟩
    | timerStopped =>
      simp only [observe, TimeTracker.stopTimer, kind, TrackerKind.amount?, ← htimer]
      cases hstarted : t.timer with
      | none => exact ⟨hintervals.timer _, hstarted⟩
      | some started =>
        obtain ⟨hfollows, htimer'⟩ := hrecord { t with timer := none } rfl (now - started)
        exact ⟨hfollows.timer _, htimer'⟩
    | elapsed span =>
      obtain ⟨hfollows, htimer'⟩ := hrecord t rfl span
      exact ⟨hfollows.timer _, htimer'.trans htimer⟩
    | _ => exact ⟨hintervals.timer _, htimer⟩
  | integerValue t =>
    cases o with
    | sample value =>
      have hrunning : t.intervals.core.isRunning = true :=
        (Collector.Follows.isRunning_eq h).trans hopen
      -- A running tracker takes the sample in
      simp only [observe, IntegerValueTracker.add, hrunning, if_true]
      exact (Collector.Follows.record h wf hopen value.toInt now).timer _
    | _ => exact Collector.Follows.timer h _
  | categorical t =>
    cases o with
    | inCategory name =>
      have hincrement := CategoricalTracker.Follows.increment h hopen name 1 now
      exact hincrement.of_points rfl rfl
    | _ => exact CategoricalTracker.Follows.of_points h rfl rfl

theorem observe (h : s.Follows length c) (wf : c.WellFormed s.kind) (o : Observation)
    (now : Instant) : (s.observe o now).1.Follows length (c.observe s.kind o now) := by
  cases hopen : c.isOpen with
  | true => exact h.observe_of_open wf hopen o now
  | false =>
    have hidle : s.isRunning = false := h.isRunning_eq.trans hopen
    have htimer : s.timer = none := h.timer_eq_none (wf.timer_of_closed hopen)
    rw [observe_of_not_running now hidle htimer, Chronicle.observe_of_closed hopen]
    exact h

theorem take (h : s.Follows length c) (wf : c.WellFormed s.kind) (event : TrackerEvent) :
    (s.take event).1.Follows length (c.take s.kind event) := by
  cases event with
  | start now => exact h.start wf now
  | stop now => exact h.stop wf now
  | observe o now => exact h.observe wf o now
  | rename name =>
    exact h.mapCore (f := fun core => { core with name }) (fun _ => rfl) fun _ => rfl
  | listen job =>
    exact h.mapCore (f := fun core => { core with listener := some job }) (fun _ => rfl)
      fun _ => rfl

end Statistics.Follows

/-! ## Section 5: Sequences of events -/

namespace CollectionContext

/-- An interval is never too short for the clock. -/
theorem shortest_le_interval (context : CollectionContext) :
    IntervalClock.shortest ≤ context.interval := by
  have hseconds : 1 ≤ if context.intervalSeconds = 0 then CollectionContext.defaultIntervalSeconds
      else context.intervalSeconds := by
    split
    · decide
    · omega
  calc IntervalClock.shortest
      _ ≤ 1 * Span.second := by decide
      _ ≤ context.interval := Nat.mul_le_mul_right Span.second hseconds

theorem interval_pos (context : CollectionContext) : 0 < context.interval :=
  Nat.lt_of_lt_of_le (by decide) (shortest_le_interval context)

end CollectionContext

namespace Statistics

variable {length : Span} {c : Chronicle} {s : Statistics}

/-- From statistics that account for a chronicle, events lead to statistics that account for what
becomes of the chronicle. -/
theorem follows_foldl {kind : TrackerKind} (hkind : s.kind = kind) (h : s.Follows length c)
    (wf : c.WellFormed kind) (events : List TrackerEvent) :
    (s.after events).Follows length (events.foldl (fun c event => c.take kind event) c) := by
  -- Induction over the events; the chronicle stays well formed on the way
  subst hkind
  induction events generalizing s c with
  | nil => exact h
  | cons event events ih =>
    have hrest := ih (h.take wf event)
    rw [kind_take] at hrest
    exact hrest (Chronicle.wellFormed_take wf event)

/-- **Statistics account for everything they take in.** -/
theorem follows_after (kind : TrackerKind) (name : String) (context : CollectionContext)
    (events : List TrackerEvent) :
    ((ofContext kind name context).after events).Follows context.interval
      (Chronicle.ofEvents kind events) := by
  have hinitial : (ofContext kind name context).Follows context.interval {} := by
    have hlength : (IntervalClock.ofLength context.interval).length = context.interval :=
      Nat.max_eq_left context.shortest_le_interval
    rw [← hlength]
    cases kind with
    | incremental => exact Collector.Follows.ofContext _ name context
    | time => exact ⟨Collector.Follows.ofContext _ name context, rfl⟩
    | integerValue => exact Collector.Follows.ofContext _ name context
    | categorical => exact ⟨rfl, rfl, by simp [CategoricalTracker.ofContext]⟩
  exact follows_foldl (kind_ofContext kind name context) hinitial
    (Chronicle.wellFormed_ofEvents kind []) events

end Statistics

end JobScript
