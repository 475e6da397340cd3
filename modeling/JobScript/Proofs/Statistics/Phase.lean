import JobScript.Statistics.Tracker

/-!
# The Phase of Statistics

Statistics move from the start to running and on to stopped, and never back. What they take in
while running changes their counts, not their phase; what they take in at other times changes
nothing.

## Architecture

- `Collector.phase_record`, `Collector.phase_stop`: the phase while intervals are closed
- `Statistics.phase_start`, `Statistics.phase_stop`, `Statistics.phase_observe`: one lemma for
  each thing that can happen
- `Statistics.start_of_started`, `Statistics.stop_of_not_running`,
  `Statistics.observe_of_not_running`: what changes nothing
-/

namespace JobScript

/-! ## Section 1: Cores -/

namespace TrackerCore

variable (core : TrackerCore) (now : Instant)

@[simp] theorem phase_report (value : Float) (mode : ReportMode) :
    (core.report value mode).1.phase = core.phase := rfl

@[simp] theorem clock_report (value : Float) (mode : ReportMode) :
    (core.report value mode).1.clock = core.clock := rfl

@[simp] theorem isRunning_iff : core.isRunning = true ↔ core.phase = .running := by
  simp only [isRunning, decide_eq_true_eq]

@[simp] theorem isStopped_iff : core.isStopped = true ↔ core.phase = .stopped := by
  simp only [isStopped, decide_eq_true_eq]

/-- Only the first start counts. -/
theorem start_of_started {core : TrackerCore} (h : core.phase ≠ .notStarted) :
    core.start now = core := by
  unfold start
  split
  · exact absurd ‹_› h
  · rfl
  · rfl

theorem phase_start :
    (core.start now).phase = if core.phase = .notStarted then .running else core.phase := by
  unfold start
  split <;> simp [*]

theorem phase_finish :
    (core.finish now).phase = if core.phase = .running then .stopped else core.phase := by
  unfold finish
  split <;> simp [*]

@[simp] theorem clock_finish : (core.finish now).clock = core.clock := by
  unfold finish
  split <;> rfl

/-- Only a running tracker can be stopped. -/
theorem finish_of_not_running {core : TrackerCore} (h : core.isRunning = false) :
    core.finish now = core := by
  unfold finish
  split
  · simp [isRunning, *] at h
  · rfl
  · rfl

end TrackerCore

/-! ## Section 2: Collectors -/

namespace Collector

variable {β : Type} [Bucket β] (c : Collector β) (now : Instant)

@[simp] theorem phase_close : c.close.1.core.phase = c.core.phase := rfl

@[simp] theorem clock_close : c.close.1.core.clock = c.core.clock := rfl

@[simp] theorem phase_closeMany (count : Nat) :
    (closeMany count c).1.core.phase = c.core.phase := by
  induction count generalizing c with
  | zero => rfl
  | succ count ih => exact ih c.close.1

@[simp] theorem clock_closeMany (count : Nat) :
    (closeMany count c).1.core.clock = c.core.clock := by
  induction count generalizing c with
  | zero => rfl
  | succ count ih => exact ih c.close.1

@[simp] theorem phase_roll : (c.roll now).1.core.phase = c.core.phase := by
  simp only [roll, phase_closeMany]

@[simp] theorem clock_roll :
    (c.roll now).1.core.clock = (c.core.clock.advance now).2 := by
  simp only [roll, clock_closeMany]

@[simp] theorem phase_record (add : β → β) : (c.record now add).1.core.phase = c.core.phase := by
  unfold record
  split
  · exact phase_roll c now
  · rfl

theorem record_of_not_running {c : Collector β} (h : c.core.isRunning = false) (add : β → β) :
    c.record now add = (c, []) :=
  if_neg (Bool.eq_false_iff.mp h)

theorem stop_of_not_running {c : Collector β} (h : c.core.isRunning = false) :
    c.stop now = (c, []) :=
  if_neg (Bool.eq_false_iff.mp h)

theorem phase_stop :
    (c.stop now).1.core.phase = if c.core.phase = .running then .stopped else c.core.phase := by
  unfold stop
  split
  · rename_i hrunning
    simp only [TrackerCore.phase_report, TrackerCore.phase_finish, phase_close, phase_roll]
  · rename_i hidle
    rw [if_neg (mt c.core.isRunning_iff.mpr hidle)]

/-- A stop brings the clock to its time. -/
theorem clock_stop (hrunning : c.core.phase = .running) :
    (c.stop now).1.core.clock = (c.core.clock.advance now).2 := by
  rw [stop, if_pos (c.core.isRunning_iff.mpr hrunning)]
  simp only [TrackerCore.clock_report, TrackerCore.clock_finish, clock_close, clock_roll]

end Collector

/-! ## Section 3: Time and categorical trackers -/

namespace TimeTracker

variable (t : TimeTracker) (now : Instant)

@[simp] theorem phase_record (elapsed : Span) :
    (t.record elapsed now).1.intervals.core.phase = t.intervals.core.phase := by
  unfold record
  split
  · exact Collector.phase_record t.intervals now _
  · rfl

@[simp] theorem phase_stopTimer :
    (t.stopTimer now).1.intervals.core.phase = t.intervals.core.phase := by
  unfold stopTimer
  split
  · rfl
  · exact phase_record { t with timer := none } now _

theorem phase_stop :
    (t.stop now).1.intervals.core.phase =
      if t.intervals.core.phase = .running then .stopped else t.intervals.core.phase := by
  unfold stop
  split
  · exact Collector.phase_stop t.intervals now
  · rename_i hidle
    rw [if_neg (mt t.intervals.core.isRunning_iff.mpr hidle)]

theorem record_of_not_running {t : TimeTracker} (h : t.intervals.core.isRunning = false)
    (elapsed : Span) : t.record elapsed now = (t, []) :=
  if_neg (Bool.eq_false_iff.mp h)

theorem stop_of_not_running {t : TimeTracker} (h : t.intervals.core.isRunning = false) :
    t.stop now = (t, []) :=
  if_neg (Bool.eq_false_iff.mp h)

end TimeTracker

/-- Counting in a category leaves name and progress alone. -/
theorem CategoricalTracker.core_increment (t : CategoricalTracker) (category : String) :
    (t.increment category).core = t.core := by
  unfold increment
  split
  · split <;> rfl
  · rfl

/-! ## Section 4: Statistics -/

namespace Statistics

variable (s : Statistics) (now : Instant)

@[simp] theorem core_mapCore (f : TrackerCore → TrackerCore) : (s.mapCore f).core = f s.core := by
  cases s <;> rfl

@[simp] theorem kind_mapCore (f : TrackerCore → TrackerCore) : (s.mapCore f).kind = s.kind := by
  cases s <;> rfl

@[simp] theorem kind_ofContext (kind : TrackerKind) (name : String) (context : CollectionContext) :
    (ofContext kind name context).kind = kind := by
  cases kind <;> rfl

@[simp] theorem core_ofContext (kind : TrackerKind) (name : String) (context : CollectionContext) :
    (ofContext kind name context).core = TrackerCore.ofContext name context := by
  cases kind <;> rfl

/-- A change that leaves the core alone leaves the statistics alone. -/
theorem mapCore_eq_self {s : Statistics} {f : TrackerCore → TrackerCore} (h : f s.core = s.core) :
    s.mapCore f = s := by
  cases s with
  | incremental t => exact congrArg (fun core => incremental { t with core }) h
  | time t =>
    exact congrArg (fun core => time { t with intervals := { t.intervals with core } }) h
  | integerValue t =>
    exact congrArg (fun core => integerValue { t with intervals := { t.intervals with core } }) h
  | categorical t => exact congrArg (fun core => categorical { t with core }) h

@[simp] theorem isRunning_iff : s.isRunning = true ↔ s.core.phase = .running :=
  s.core.isRunning_iff

@[simp] theorem isStopped_iff : s.isStopped = true ↔ s.core.phase = .stopped :=
  s.core.isStopped_iff

/-! ### Naming and listening -/

@[simp] theorem kind_rename (name : String) : (s.rename name).kind = s.kind :=
  s.kind_mapCore _

@[simp] theorem kind_listen (job : String) : (s.listen job).kind = s.kind :=
  s.kind_mapCore _

@[simp] theorem phase_rename (name : String) : (s.rename name).core.phase = s.core.phase := by
  rw [rename, core_mapCore]

@[simp] theorem phase_listen (job : String) : (s.listen job).core.phase = s.core.phase := by
  rw [listen, core_mapCore]

/-! ### Starting -/

@[simp] theorem kind_start : (s.start now).kind = s.kind :=
  s.kind_mapCore _

theorem phase_start :
    (s.start now).core.phase =
      if s.core.phase = .notStarted then .running else s.core.phase := by
  rw [start, core_mapCore, TrackerCore.phase_start]

theorem start_of_started {s : Statistics} (h : s.core.phase ≠ .notStarted) : s.start now = s :=
  mapCore_eq_self (TrackerCore.start_of_started now h)

/-! ### Stopping -/

@[simp] theorem kind_stop : (s.stop now).1.kind = s.kind := by
  cases s <;> rfl

theorem phase_stop :
    (s.stop now).1.core.phase = if s.core.phase = .running then .stopped else s.core.phase := by
  cases s with
  | incremental t => exact Collector.phase_stop t now
  | time t => exact t.phase_stop now
  | integerValue t => exact Collector.phase_stop t.intervals now
  | categorical t => exact TrackerCore.phase_finish t.core now

theorem stop_of_not_running {s : Statistics} (h : s.isRunning = false) : s.stop now = (s, []) := by
  cases s with
  | incremental t =>
    have hstop : Collector.stop t now = (t, []) := Collector.stop_of_not_running now h
    simp only [stop, hstop]
  | time t =>
    have hstop : t.stop now = (t, []) := TimeTracker.stop_of_not_running now h
    simp only [stop, hstop]
  | integerValue t =>
    have hstop : t.intervals.stop now = (t.intervals, []) := Collector.stop_of_not_running now h
    simp only [stop, IntegerValueTracker.stop, hstop]
  | categorical t =>
    have hfinish : t.core.finish now = t.core := TrackerCore.finish_of_not_running now h
    simp only [stop, CategoricalTracker.stop, hfinish]

/-! ### Observations -/

@[simp] theorem kind_observe (o : Observation) : (s.observe o now).1.kind = s.kind := by
  unfold observe
  split <;> rfl

/-- Observations do not move the phase. -/
@[simp] theorem phase_observe (o : Observation) :
    (s.observe o now).1.core.phase = s.core.phase := by
  unfold observe
  split
  · rename_i t
    exact Collector.phase_record t now _
  · rename_i t
    simp only [core, TimeTracker.startTimer]
    split <;> rfl
  · rename_i t
    exact t.phase_stopTimer now
  · rename_i t span
    exact t.phase_record now span
  · rename_i t value
    simp only [core, IntegerValueTracker.add]
    split
    · exact Collector.phase_record t.intervals now _
    · rfl
  · rename_i t name
    exact congrArg TrackerCore.phase (t.core_increment name)
  · rfl

/-- The open timing, which only statistics of times can have. -/
def timer : Statistics → Option Instant
  | .time t => t.timer
  | _ => none

/-- Statistics that are not running drop every observation; none of them has an open timing. -/
theorem observe_of_not_running {s : Statistics} (h : s.isRunning = false) (htimer : s.timer = none)
    (o : Observation) : s.observe o now = (s, []) := by
  unfold observe
  split
  · rename_i t
    have hrecord : IncrementalTracker.increment t now = (t, []) :=
      Collector.record_of_not_running now h _
    simp only [hrecord]
  · rename_i t
    have hstart : t.startTimer now = t := if_neg (Bool.eq_false_iff.mp h)
    simp only [hstart]
  · rename_i t
    have hstop : t.stopTimer now = (t, []) := by
      simp only [TimeTracker.stopTimer, show t.timer = none from htimer]
    simp only [hstop]
  · rename_i t span
    have hrecord : t.record span now = (t, []) := TimeTracker.record_of_not_running now h span
    simp only [hrecord]
  · rename_i t value
    have hadd : t.add value now = (t, []) := if_neg (Bool.eq_false_iff.mp h)
    simp only [hadd]
  · rename_i t name
    have hincrement : t.increment name = t := if_neg (Bool.eq_false_iff.mp h)
    simp only [hincrement]
  · rfl

end Statistics

end JobScript
