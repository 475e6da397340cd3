import JobScript.Proofs.Statistics.Chronicle

/-!
# What a Listener Hears

A tracker numbers its live reports with a counter of its own, and keeps its closed intervals in a
list. The two agree: report `i` is about closed interval `i`, and the last report, `Done`, carries
the number of all of them. The counter runs on when nobody listens, so a job that listens from some
moment on hears exactly what becomes available from then on.

## Architecture

- `Reading`, `readings`: everything there is to report, by closed interval
- `TrackerCore.announce`: readings as they are sent to the listener
- `Collector.Tells`: an operation sends exactly the readings it adds
- `Statistics.stream`, `Statistics.reports`: what can be reported, and what was sent
- `Statistics.Numbered`: the counter is the number of readings so far
- `Statistics.stream_append_reports`: along events, a listener misses nothing
- `Statistics.listener_hears_stream`: the protocol of a live report
-/

namespace JobScript

/-! ## Section 1: Readings -/

/-- What a report says about an interval: its number, its value, and how to combine it. -/
structure Reading where
  interval : Nat
  value : Float
  mode : ReportMode

def DataPoint.reading (p : DataPoint) : Reading :=
  ⟨p.interval, p.value, p.mode⟩

/-- A value for every closed interval under its position and, once stopped, `Done` under the number
of closed intervals. -/
def readings {β : Type} (value : β → Float) (mode : ReportMode) (closed : List β)
    (stopped : Bool) : List Reading :=
  closed.zipIdx.map (fun entry => ⟨entry.2, value entry.1, mode⟩) ++
    if stopped then [⟨closed.length, 0, .done⟩] else []

section Readings

variable {β : Type} (value : β → Float) (mode : ReportMode) (closed : List β)

theorem length_readings (stopped : Bool) :
    (readings value mode closed stopped).length = closed.length + if stopped then 1 else 0 := by
  cases stopped <;> simp [readings]

/-- Closing an interval adds its reading. -/
theorem readings_append (bucket : β) :
    readings value mode (closed ++ [bucket]) false =
      readings value mode closed false ++ [⟨closed.length, value bucket, mode⟩] := by
  simp [readings, List.zipIdx_append]

/-- Stopping adds `Done`. -/
theorem readings_stopped :
    readings value mode closed true =
      readings value mode closed false ++ [⟨closed.length, 0, .done⟩] := by
  simp [readings]

variable {closed} {value} {mode}

theorem mode_of_mem_readings {r : Reading} (h : r ∈ readings value mode closed false) :
    r.mode = mode := by
  simp only [readings, Bool.false_eq_true, if_false, List.append_nil, List.mem_map] at h
  obtain ⟨entry, -, rfl⟩ := h
  rfl

/-- `Done` is there once the tracker has stopped. -/
theorem done_mem_readings (hmode : mode ≠ .done) {stopped : Bool} :
    (∃ r ∈ readings value mode closed stopped, r.mode = .done) ↔ stopped = true := by
  cases stopped with
  | true => simp [readings_stopped]
  | false =>
    refine iff_of_false ?_ Bool.false_ne_true
    rintro ⟨r, hmem, hdone⟩
    exact hmode ((mode_of_mem_readings hmem).symm.trans hdone)

/-- Nothing follows `Done`. -/
theorem eq_nil_of_readings_eq (hmode : mode ≠ .done) {stopped : Bool}
    {before after : List Reading} {r : Reading}
    (h : readings value mode closed stopped = before ++ r :: after) (hdone : r.mode = .done) :
    after = [] := by
  cases stopped with
  | false =>
    have hmem : r ∈ readings value mode closed false :=
      h ▸ List.mem_append_right _ List.mem_cons_self
    exact absurd ((mode_of_mem_readings hmem).symm.trans hdone) hmode
  | true =>
    rw [readings_stopped] at h
    rcases List.eq_nil_or_concat after with hnil | ⟨rest, last, hlast⟩
    · exact hnil
    · -- Otherwise `r` stands before the end, among the readings of intervals
      have hinit : readings value mode closed false = before ++ r :: rest := by
        rw [hlast, List.concat_eq_append, ← List.cons_append, ← List.append_assoc] at h
        exact (List.append_inj' h rfl).1
      have hmem : r ∈ readings value mode closed false :=
        hinit ▸ List.mem_append_right _ List.mem_cons_self
      exact absurd ((mode_of_mem_readings hmem).symm.trans hdone) hmode

end Readings

/-! ## Section 2: Sending -/

namespace TrackerCore

/-- Readings as they are sent to the listener; without one, nothing is sent. -/
def announce (core : TrackerCore) (news : List Reading) : List DataPoint :=
  core.listener.toList.flatMap fun job =>
    news.map fun r =>
      { job
        tracker := core.name
        client := core.context.client
        thread := core.context.thread
        interval := r.interval
        value := r.value
        mode := r.mode }

@[simp] theorem announce_nil (core : TrackerCore) : core.announce [] = [] := by
  simp [announce]

theorem announce_append (core : TrackerCore) (news more : List Reading) :
    core.announce (news ++ more) = core.announce news ++ core.announce more := by
  unfold announce
  cases core.listener <;> simp

theorem announce_of_silent {core : TrackerCore} (h : core.listener = none) (news : List Reading) :
    core.announce news = [] := by
  simp [announce, h]

theorem map_reading_announce {core : TrackerCore} (h : core.listener.isSome = true)
    (news : List Reading) : (core.announce news).map DataPoint.reading = news := by
  obtain ⟨job, hjob⟩ := Option.isSome_iff_exists.mp h
  simp [announce, hjob, Function.comp_def, DataPoint.reading]

theorem job_of_mem_announce {core : TrackerCore} {job : String} (h : core.listener = some job)
    {news : List Reading} {p : DataPoint} (hp : p ∈ core.announce news) : p.job = job := by
  simp only [announce, h, Option.toList_some, List.flatMap_cons, List.flatMap_nil,
    List.append_nil, List.mem_map] at hp
  obtain ⟨r, -, rfl⟩ := hp
  rfl

/-- A report sends the reading under the next number. -/
theorem report_eq (core : TrackerCore) (value : Float) (mode : ReportMode) :
    core.report value mode =
      ({ core with nextInterval := core.nextInterval + 1 },
        core.announce [⟨core.nextInterval, value, mode⟩]) := by
  unfold report announce
  cases core.listener <;> rfl

/-- Two states of one tracker that report to the same place, by intervals of the same length. -/
structure Alike (a b : TrackerCore) : Prop where
  name : b.name = a.name
  context : b.context = a.context
  listener : b.listener = a.listener
  length : b.clock.length = a.clock.length

namespace Alike

variable {a b c : TrackerCore}

theorem refl (a : TrackerCore) : a.Alike a :=
  ⟨rfl, rfl, rfl, rfl⟩

theorem trans (hab : a.Alike b) (hbc : b.Alike c) : a.Alike c :=
  ⟨hbc.name.trans hab.name, hbc.context.trans hab.context, hbc.listener.trans hab.listener,
    hbc.length.trans hab.length⟩

theorem announce (h : a.Alike b) (news : List Reading) : b.announce news = a.announce news := by
  simp only [TrackerCore.announce, h.name, h.context, h.listener]

end Alike

theorem alike_start (core : TrackerCore) (now : Instant) : core.Alike (core.start now) := by
  unfold start
  split <;> exact ⟨rfl, rfl, rfl, rfl⟩

theorem alike_finish (core : TrackerCore) (now : Instant) : core.Alike (core.finish now) := by
  unfold finish
  split <;> exact ⟨rfl, rfl, rfl, rfl⟩

@[simp] theorem nextInterval_start (core : TrackerCore) (now : Instant) :
    (core.start now).nextInterval = core.nextInterval := by
  unfold start
  split <;> rfl

@[simp] theorem nextInterval_finish (core : TrackerCore) (now : Instant) :
    (core.finish now).nextInterval = core.nextInterval := by
  unfold finish
  split <;> rfl

@[simp] theorem isStopped_start (core : TrackerCore) (now : Instant) :
    (core.start now).isStopped = core.isStopped := by
  unfold start isStopped
  split <;> simp [*]

theorem isStopped_of_running {core : TrackerCore} (h : core.phase = .running) :
    core.isStopped = false := by
  simp [isStopped, h]

end TrackerCore

/-! ## Section 3: Collectors -/

namespace Collector

variable {β : Type} [Bucket β] {c : Collector β}

/-- Everything a collector has to report so far. -/
def stream (c : Collector β) : List Reading :=
  readings (Bucket.liveValue c.core.intervalSeconds) (Bucket.mode β) c.closed c.core.isStopped

/-- The number of the next report is the number of readings so far. -/
def Numbered (c : Collector β) : Prop :=
  c.core.nextInterval = c.stream.length

/-- An operation on a collector sends exactly the readings that it adds. -/
structure Tells (c : Collector β) (told : Collector β × List DataPoint) : Prop where
  alike : c.core.Alike told.1.core
  numbered : told.1.Numbered
  news : ∃ news, told.1.stream = c.stream ++ news ∧ told.2 = c.core.announce news

/-- Operations after each other send their readings after each other. -/
theorem Tells.trans {d e : Collector β} {points more : List DataPoint} (h : c.Tells (d, points))
    (h' : d.Tells (e, more)) : c.Tells (e, points ++ more) := by
  obtain ⟨halike, -, news, hd, hpoints⟩ := h
  obtain ⟨halike', hnumbered, later, he, hmore⟩ := h'
  refine ⟨halike.trans halike', hnumbered, news ++ later, ?_, ?_⟩
  · simp only at hd he ⊢
    rw [he, hd, List.append_assoc]
  · simp only at hpoints hmore ⊢
    rw [hpoints, hmore, halike.announce, TrackerCore.announce_append]

/-- An operation that closes nothing and does not stop the tracker sends nothing. -/
theorem tells_nothing (h : c.Numbered) {d : Collector β} (halike : c.core.Alike d.core)
    (hnext : d.core.nextInterval = c.core.nextInterval) (hclosed : d.closed = c.closed)
    (hstopped : d.core.isStopped = c.core.isStopped) : c.Tells (d, []) := by
  have hstream : d.stream = c.stream := by
    simp only [stream, TrackerCore.intervalSeconds, halike.length, hclosed, hstopped]
  refine ⟨halike, ?_, [], ?_, ?_⟩
  · exact (hnext.trans h).trans (congrArg List.length hstream).symm
  · exact hstream.trans (List.append_nil _).symm
  · exact (TrackerCore.announce_nil _).symm

theorem nextInterval_eq (h : c.Numbered) (hstopped : c.core.isStopped = false) :
    c.core.nextInterval = c.closed.length := by
  rw [h, stream, length_readings, hstopped]
  rfl

/-- A report under the next number sends the one reading it adds. -/
theorem report_tells (h : c.Numbered) {d : Collector β} (halike : c.core.Alike d.core)
    (hnext : d.core.nextInterval = c.core.nextInterval) {value : Float} {mode : ReportMode}
    (hstream : d.stream = c.stream ++ [⟨c.core.nextInterval, value, mode⟩]) :
    c.Tells ({ d with core := (d.core.report value mode).1 }, (d.core.report value mode).2) := by
  rw [TrackerCore.report_eq]
  refine ⟨⟨halike.name, halike.context, halike.listener, halike.length⟩, ?_, _, hstream, ?_⟩
  · -- Reporting leaves the readings alone and counts one more
    show d.core.nextInterval + 1 = d.stream.length
    rw [hstream, List.length_append, List.length_singleton, hnext, h]
  · show d.core.announce _ = _
    rw [halike.announce, hnext]

/-- The closed interval is reported under its position. -/
theorem close_tells (h : c.Numbered) (hstopped : c.core.isStopped = false) :
    c.Tells c.close := by
  have hstream := readings_append (Bucket.liveValue c.core.intervalSeconds) (Bucket.mode β)
    c.closed c.current
  rw [← nextInterval_eq h hstopped, ← hstopped] at hstream
  exact report_tells (d := { c with closed := c.closed ++ [c.current], current := Bucket.empty }) h
    (.refl c.core) rfl hstream

theorem closeMany_tells (count : Nat) (h : c.Numbered) (hstopped : c.core.isStopped = false) :
    c.Tells (closeMany count c) := by
  induction count generalizing c with
  | zero => exact tells_nothing h (.refl _) rfl rfl rfl
  | succ count ih =>
    have hclose := close_tells h hstopped
    exact hclose.trans (ih hclose.numbered hstopped)

theorem roll_tells (h : c.Numbered) (hstopped : c.core.isStopped = false) (now : Instant) :
    c.Tells (c.roll now) := by
  -- The clock moves first, which is nothing to report
  have hclock : c.Tells ({ c with core := { c.core with clock := (c.core.clock.advance now).2 } },
      []) :=
    tells_nothing h ⟨rfl, rfl, rfl, IntervalClock.length_advance _ _⟩ rfl rfl rfl
  exact hclock.trans (closeMany_tells _ hclock.numbered hstopped)

theorem record_tells (h : c.Numbered) (now : Instant) (add : β → β) :
    c.Tells (c.record now add) := by
  unfold record
  split
  · rename_i hrunning
    have hroll := roll_tells h
      (TrackerCore.isStopped_of_running (c.core.isRunning_iff.mp hrunning)) now
    exact ⟨hroll.alike, hroll.numbered, hroll.news⟩
  · exact tells_nothing h (.refl _) rfl rfl rfl

/-- The end of a tracker is reported under the number of its closed intervals. -/
theorem finish_tells (h : c.Numbered) (hrunning : c.core.phase = .running) (now : Instant) :
    c.Tells ({ c with core := ((c.core.finish now).report 0 .done).1 },
      ((c.core.finish now).report 0 .done).2) := by
  have hnext := nextInterval_eq h (TrackerCore.isStopped_of_running hrunning)
  have halike := c.core.alike_finish now
  have hstopped : (c.core.finish now).isStopped = true := by
    rw [TrackerCore.isStopped_iff, TrackerCore.phase_finish, if_pos hrunning]
  have hstream : { c with core := c.core.finish now }.stream =
      c.stream ++ [⟨c.core.nextInterval, 0, .done⟩] := by
    simp only [stream, TrackerCore.intervalSeconds, halike.length, hstopped, hnext,
      TrackerCore.isStopped_of_running hrunning, readings_stopped]
  exact report_tells (d := { c with core := c.core.finish now }) h halike
    (c.core.nextInterval_finish now) hstream

theorem stop_tells (h : c.Numbered) (now : Instant) : c.Tells (c.stop now) := by
  unfold stop
  split
  · rename_i hrunning
    have hphase := c.core.isRunning_iff.mp hrunning
    have hroll := roll_tells h (TrackerCore.isStopped_of_running hphase) now
    have hrolled : (c.roll now).1.core.phase = .running := (phase_roll c now).trans hphase
    have hclose := close_tells hroll.numbered (TrackerCore.isStopped_of_running hrolled)
    exact (hroll.trans hclose).trans (finish_tells hclose.numbered hrolled now)
  · exact tells_nothing h (.refl _) rfl rfl rfl

end Collector

/-! ## Section 4: Statistics -/

namespace Statistics

variable {s : Statistics}

/-- Everything there is to report so far: rates of an incremental tracker, averages of the times
and of the samples. Categories are not reported live. -/
def stream : Statistics → List Reading
  | .incremental t =>
    readings (fun o => o.count.toUInt64.toFloat / t.core.intervalSeconds) .add
      t.closed t.core.isStopped
  | .time t =>
    readings (fun timings => Timings.averageMilliseconds timings.total timings.count) .average
      t.intervals.closed t.intervals.core.isStopped
  | .integerValue t =>
    readings Samples.average .average t.intervals.closed t.intervals.core.isStopped
  | .categorical _ => []

/-- The reports that events cause, in order. -/
def reports (s : Statistics) : List TrackerEvent → List DataPoint
  | [] => []
  | event :: events => (s.take event).2 ++ (s.take event).1.reports events

/-- The number of the next report is the number of readings so far. -/
def Numbered (s : Statistics) : Prop :=
  s.core.nextInterval = s.stream.length

/-- An operation on statistics sends exactly the readings that it adds. -/
structure Tells (s : Statistics) (told : Statistics × List DataPoint) : Prop where
  alike : s.core.Alike told.1.core
  numbered : told.1.Numbered
  news : ∃ news, told.1.stream = s.stream ++ news ∧ told.2 = s.core.announce news

theorem numbered_ofContext (kind : TrackerKind) (name : String) (context : CollectionContext) :
    (ofContext kind name context).Numbered := by
  cases kind <;> rfl

theorem tells_nothing (h : s.Numbered) : s.Tells (s, []) :=
  ⟨.refl _, h, [], (List.append_nil _).symm, (TrackerCore.announce_nil _).symm⟩

theorem start_tells (h : s.Numbered) (now : Instant) : s.Tells (s.start now, []) := by
  have halike := s.core.alike_start now
  have hstream : (s.start now).stream = s.stream := by
    cases s with
    | incremental t =>
      simp only [start, mapCore, stream, TrackerCore.isStopped_start, TrackerCore.intervalSeconds,
        (t.core.alike_start now).length]
    | time t => simp only [start, mapCore, stream, TrackerCore.isStopped_start]
    | integerValue t => simp only [start, mapCore, stream, TrackerCore.isStopped_start]
    | categorical t => rfl
  have hcore : (s.start now).core = s.core.start now := s.core_mapCore _
  refine ⟨?_, ?_, [], ?_, (TrackerCore.announce_nil _).symm⟩
  · simpa only [hcore] using halike
  · simpa only [Numbered, hcore, TrackerCore.nextInterval_start, hstream] using h
  · simpa only [List.append_nil] using hstream

theorem stop_tells (h : s.Numbered) (now : Instant) : s.Tells (s.stop now) := by
  cases s with
  | incremental t =>
    have hstop := Collector.stop_tells h now
    exact ⟨hstop.alike, hstop.numbered, hstop.news⟩
  | time t =>
    simp only [stop, TimeTracker.stop]
    split
    · have hstop := Collector.stop_tells h now
      exact ⟨hstop.alike, hstop.numbered, hstop.news⟩
    · exact tells_nothing h
  | integerValue t =>
    have hstop := Collector.stop_tells h now
    exact ⟨hstop.alike, hstop.numbered, hstop.news⟩
  | categorical t =>
    exact ⟨t.core.alike_finish now, (t.core.nextInterval_finish now).trans h, [],
      rfl, (TrackerCore.announce_nil _).symm⟩

theorem record_tells {t : TimeTracker} (h : (time t).Numbered) (elapsed : Span) (now : Instant) :
    (time t).Tells (time (t.record elapsed now).1, (t.record elapsed now).2) := by
  unfold TimeTracker.record
  split
  · have hrecord := Collector.record_tells h now (Timings.add · elapsed)
    exact ⟨hrecord.alike, hrecord.numbered, hrecord.news⟩
  · exact tells_nothing h

theorem observe_tells (h : s.Numbered) (o : Observation) (now : Instant) :
    s.Tells (s.observe o now) := by
  unfold observe
  split
  · have hrecord := Collector.record_tells h now Occurrences.increment
    exact ⟨hrecord.alike, hrecord.numbered, hrecord.news⟩
  · rename_i t
    unfold TimeTracker.startTimer
    split
    · exact ⟨.refl _, h, (tells_nothing h).news⟩
    · exact tells_nothing h
  · rename_i t
    unfold TimeTracker.stopTimer
    split
    · exact tells_nothing h
    · -- That the timing is closed is nothing to report
      have hrecord := record_tells (t := { t with timer := none }) h (now - ‹Instant›) now
      exact ⟨hrecord.alike, hrecord.numbered, hrecord.news⟩
  · exact record_tells h _ now
  · rename_i t value
    simp only [IntegerValueTracker.add]
    split
    · have hrecord := Collector.record_tells h now (Samples.add · value)
      exact ⟨hrecord.alike, hrecord.numbered, hrecord.news⟩
    · exact tells_nothing h
  · rename_i t category
    have hcore := t.core_increment category
    refine ⟨?_, ?_, [], rfl, (TrackerCore.announce_nil _).symm⟩
    · exact (congrArg t.core.Alike hcore).mpr (.refl t.core)
    · exact (congrArg TrackerCore.nextInterval hcore).trans h
  · exact tells_nothing h

/-! ## Section 5: Events -/

/-- Who listens after an event. -/
def listenerAfter (listener : Option String) : TrackerEvent → Option String
  | .listen job => some job
  | _ => listener

/-- An event sends exactly the readings that it adds, to the job that listened before. -/
theorem take_tells (h : s.Numbered) (event : TrackerEvent) :
    (s.take event).1.Numbered ∧
      (∃ news, (s.take event).1.stream = s.stream ++ news ∧
        (s.take event).2 = s.core.announce news) ∧
      (s.take event).1.core.listener = listenerAfter s.core.listener event := by
  cases event with
  | start now =>
    have hstart := start_tells h now
    exact ⟨hstart.numbered, hstart.news, hstart.alike.listener⟩
  | stop now =>
    have hstop := stop_tells h now
    exact ⟨hstop.numbered, hstop.news, hstop.alike.listener⟩
  | observe o now =>
    have hobserve := observe_tells h o now
    exact ⟨hobserve.numbered, hobserve.news, hobserve.alike.listener⟩
  | rename name =>
    cases s <;> exact ⟨h, (tells_nothing h).news, rfl⟩
  | listen job =>
    cases s <;> exact ⟨h, (tells_nothing h).news, rfl⟩

theorem isSome_listenerAfter {listener : Option String} (h : listener.isSome = true)
    (event : TrackerEvent) : (listenerAfter listener event).isSome = true := by
  cases event with
  | listen job => rfl
  | _ => exact h

/-- Only another job takes the place of a listener. -/
theorem listenerAfter_eq {event : TrackerEvent} (h : ∀ job, .listen job ≠ event)
    (listener : Option String) : listenerAfter listener event = listener := by
  cases event with
  | listen job => exact absurd rfl (h job)
  | _ => rfl

theorem numbered_after (h : s.Numbered) (events : List TrackerEvent) :
    (s.after events).Numbered := by
  induction events generalizing s with
  | nil => exact h
  | cons event events ih => exact ih (take_tells h event).1

/-- A job that listens hears everything that becomes available to report. -/
theorem stream_append_reports (h : s.Numbered) (hlistener : s.core.listener.isSome = true)
    (events : List TrackerEvent) :
    s.stream ++ (s.reports events).map DataPoint.reading = (s.after events).stream := by
  induction events generalizing s with
  | nil => exact List.append_nil _
  | cons event events ih =>
    obtain ⟨hnumbered, ⟨news, hstream, hpoints⟩, hnext⟩ := take_tells h event
    have hlistens : (s.take event).1.core.listener.isSome = true :=
      hnext ▸ isSome_listenerAfter hlistener event
    rw [after_cons, ← ih hnumbered hlistens, hstream, reports, List.map_append, hpoints,
      TrackerCore.map_reading_announce hlistener, List.append_assoc]

/-- Without a listener nothing is sent. -/
theorem reports_eq_nil (h : s.Numbered) (hlistener : s.core.listener = none)
    {events : List TrackerEvent} (hnone : ∀ job, .listen job ∉ events) :
    s.reports events = [] := by
  induction events generalizing s with
  | nil => rfl
  | cons event events ih =>
    simp only [List.mem_cons, not_or] at hnone
    obtain ⟨hnumbered, ⟨news, -, hpoints⟩, hnext⟩ := take_tells h event
    rw [listenerAfter_eq fun job => (hnone job).1] at hnext
    rw [reports, hpoints, TrackerCore.announce_of_silent hlistener, List.nil_append]
    exact ih hnumbered (hnext.trans hlistener) fun job => (hnone job).2

/-- Reports go to the job that listens, until another one does. -/
theorem job_of_mem_reports (h : s.Numbered) {job : String} (hlistener : s.core.listener = some job)
    {events : List TrackerEvent} (hnone : ∀ other, .listen other ∉ events) {p : DataPoint}
    (hp : p ∈ s.reports events) : p.job = job := by
  induction events generalizing s with
  | nil => cases hp
  | cons event events ih =>
    simp only [List.mem_cons, not_or] at hnone
    obtain ⟨hnumbered, ⟨news, -, hpoints⟩, hnext⟩ := take_tells h event
    rw [listenerAfter_eq fun other => (hnone other).1] at hnext
    rcases List.mem_append.mp hp with hp | hp
    · exact TrackerCore.job_of_mem_announce hlistener (hpoints ▸ hp)
    · exact ih hnumbered (hnext.trans hlistener) (fun other => (hnone other).2) hp

/-! ## Section 6: The end of the stream -/

/-- Only a stop while it runs makes a tracker stopped. -/
theorem isStopped_take (event : TrackerEvent) :
    (s.take event).1.isStopped = true ↔
      s.isStopped = true ∨ ∃ now, event = .stop now ∧ s.isRunning = true := by
  simp only [isStopped_iff, isRunning_iff]
  cases event with
  | start now =>
    rw [take, phase_start]
    by_cases hphase : s.core.phase = .notStarted <;> simp [hphase]
  | stop now =>
    rw [take, phase_stop]
    by_cases hphase : s.core.phase = .running <;> simp [hphase]
  | observe o now => simp [take]
  | rename name => simp [take]
  | listen job => simp [take]

/-- Statistics that have stopped were stopped while they ran, at some point of the events. -/
theorem isStopped_after (events : List TrackerEvent) :
    (s.after events).isStopped = true ↔
      s.isStopped = true ∨ ∃ before now later, events = before ++ .stop now :: later ∧
        (s.after before).isRunning = true := by
  induction events generalizing s with
  | nil => simp [after]
  | cons event events ih =>
    rw [after_cons, ih, isStopped_take]
    constructor
    · rintro ((hstopped | ⟨now, rfl, hrunning⟩) | ⟨before, now, later, rfl, hrunning⟩)
      · exact .inl hstopped
      · exact .inr ⟨[], now, events, rfl, hrunning⟩
      · exact .inr ⟨event :: before, now, later, rfl, hrunning⟩
    · rintro (hstopped | ⟨before, now, later, hevents, hrunning⟩)
      · exact .inl (.inl hstopped)
      · -- The stop is the first event, or one of the following
        cases before with
        | nil =>
          obtain ⟨rfl, rfl⟩ := List.cons.inj hevents
          exact .inl (.inr ⟨now, rfl, hrunning⟩)
        | cons first before =>
          obtain ⟨rfl, rfl⟩ := List.cons.inj hevents
          exact .inr ⟨before, now, later, rfl, hrunning⟩

/-- Statistics that have stopped never run again. -/
theorem not_isRunning_after (hstopped : s.isStopped = true) (events : List TrackerEvent) :
    ¬(s.after events).isRunning = true := by
  intro hrunning
  have hphase := (isStopped_iff s).mp hstopped
  have hstarted : s.core.phase ≠ .notStarted := by
    rw [hphase]
    decide
  rw [isRunning_iff s |>.mp (isRunning_of_after hstarted hrunning)] at hphase
  cases hphase

/-- The readings of the three kinds that report are those of closed intervals, and the end. -/
theorem stream_eq_readings (hkind : s.kind ≠ .categorical) :
    ∃ (β : Type) (value : β → Float) (mode : ReportMode) (closed : List β),
      mode ≠ .done ∧ s.stream = readings value mode closed s.isStopped := by
  cases s with
  | incremental t =>
    exact ⟨Occurrences, fun o => o.count.toUInt64.toFloat / t.core.intervalSeconds, .add,
      t.closed, by decide, rfl⟩
  | time t =>
    exact ⟨Timings, fun timings => Timings.averageMilliseconds timings.total timings.count,
      .average, t.intervals.closed, by decide, rfl⟩
  | integerValue t =>
    exact ⟨Samples, Samples.average, .average, t.intervals.closed, by decide, rfl⟩
  | categorical t => exact absurd rfl hkind

/-- `Done` can be heard of a tracker once it has stopped. -/
theorem done_mem_stream (hkind : s.kind ≠ .categorical) :
    (∃ r ∈ s.stream, r.mode = .done) ↔ s.isStopped = true := by
  obtain ⟨β, value, mode, closed, hmode, hstream⟩ := stream_eq_readings hkind
  rw [hstream]
  exact done_mem_readings hmode

/-- Nothing follows `Done`. -/
theorem eq_nil_of_stream_eq (hkind : s.kind ≠ .categorical) {before after : List Reading}
    {r : Reading} (h : s.stream = before ++ r :: after) (hdone : r.mode = .done) : after = [] := by
  obtain ⟨β, value, mode, closed, hmode, hstream⟩ := stream_eq_readings hkind
  exact eq_nil_of_readings_eq hmode (hstream.symm.trans h) hdone

/-- A stopped tracker is not heard of again. -/
theorem reports_of_stopped (h : s.Numbered) (hlistener : s.core.listener.isSome = true)
    (hkind : s.kind ≠ .categorical) (hstopped : s.isStopped = true) (events : List TrackerEvent) :
    s.reports events = [] := by
  obtain ⟨r, hmem, hdone⟩ := (done_mem_stream hkind).mpr hstopped
  obtain ⟨before, later, hstream⟩ := List.append_of_mem hmem
  have hafter := stream_append_reports h hlistener events
  rw [hstream, List.append_assoc, List.cons_append] at hafter
  have hnil := eq_nil_of_stream_eq (by rwa [kind_after]) hafter.symm hdone
  exact List.map_eq_nil_iff.mp (List.append_eq_nil_iff.mp hnil).2

/-! ## Section 7: The protocol -/

/-- **The protocol of a live report.** From the moment a job listens, it hears what the tracker has
to report and has not reported before: every interval closed since, in order, under its position
among the closed intervals and with the value of its contents, and `Done` with their number exactly
if the tracker was stopped since, while it was running. Nothing follows `Done`; nothing is heard
before the job listens; and until another job listens, everything goes to this one. -/
theorem listener_hears_stream (kind : TrackerKind) (hkind : kind ≠ .categorical)
    (name job : String) (context : CollectionContext) (earlier later : List TrackerEvent) :
    let created := ofContext kind name context
    let met := (created.after earlier).listen job
    let heard := met.reports later
    met.stream ++ heard.map DataPoint.reading = (met.after later).stream ∧
      ((∃ p ∈ heard, p.mode = .done) ↔
        ∃ before now rest, later = before ++ .stop now :: rest ∧
          (met.after before).isRunning = true) ∧
      (∀ before p rest, heard = before ++ p :: rest → p.mode = .done → rest = []) ∧
      ((∀ other, .listen other ∉ later) → ∀ p ∈ heard, p.job = job) ∧
      ((∀ other, .listen other ∉ earlier) → created.reports earlier = []) := by
  intro created met heard
  have hcreated : created.Numbered := numbered_ofContext kind name context
  have hmet : met.Numbered := (take_tells (numbered_after hcreated earlier) (.listen job)).1
  have hlistener : met.core.listener = some job :=
    (take_tells (numbered_after hcreated earlier) (.listen job)).2.2
  have hsome : met.core.listener.isSome = true := by rw [hlistener]; rfl
  have hmetKind : met.kind ≠ .categorical := by
    simpa only [met, created, kind_listen, kind_after, kind_ofContext] using hkind
  have hafterKind : (met.after later).kind ≠ .categorical := by rwa [kind_after]
  have hstream := stream_append_reports hmet hsome later
  refine ⟨hstream, ?done, ?last, ?job, ?before⟩
  case done =>
    by_cases hstopped : met.isStopped = true
    · -- A tracker that has stopped already is neither heard nor stopped again
      have hheard : heard = [] := reports_of_stopped hmet hsome hmetKind hstopped later
      refine iff_of_false (by simp [hheard]) ?_
      rintro ⟨before, now, rest, -, hrunning⟩
      exact not_isRunning_after hstopped before hrunning
    · have hsilent : ¬∃ r ∈ met.stream, r.mode = .done :=
        mt (done_mem_stream hmetKind).mp hstopped
      have hafter := (done_mem_stream hafterKind).trans (isStopped_after later)
      rw [or_iff_right hstopped, ← hstream] at hafter
      rw [← hafter]
      constructor
      · rintro ⟨p, hp, hdone⟩
        exact ⟨p.reading, List.mem_append_right _ (List.mem_map_of_mem hp), hdone⟩
      · rintro ⟨r, hr, hdone⟩
        rcases List.mem_append.mp hr with hr | hr
        · exact absurd ⟨r, hr, hdone⟩ hsilent
        · obtain ⟨p, hp, rfl⟩ := List.mem_map.mp hr
          exact ⟨p, hp, hdone⟩
  case last =>
    intro before p rest hheard hdone
    have hsplit : (met.after later).stream =
        (met.stream ++ before.map DataPoint.reading) ++
          p.reading :: rest.map DataPoint.reading := by
      rw [← hstream, show met.reports later = _ from hheard, List.map_append, List.map_cons,
        List.append_assoc]
    exact List.map_eq_nil_iff.mp (eq_nil_of_stream_eq hafterKind hsplit hdone)
  case job => exact fun hnone p hp => job_of_mem_reports hmet hlistener hnone hp
  case before =>
    intro hnone
    refine reports_eq_nil hcreated ?_ hnone
    show (ofContext kind name context).core.listener = none
    rw [core_ofContext]
    rfl

/-- A tracker that is listened to from its creation on and stopped: its job hears `Done`. -/
theorem stopped_listener_hears_done :
    let created := ofContext .incremental "Requests" ⟨"local", "main", 60⟩
    let met := (created.after []).listen "nightly"
    let heard := met.reports [.start 0, .observe .occurrence 5, .stop 9]
    (∃ p ∈ heard, p.mode = .done) ∧ ∀ p ∈ heard, p.job = "nightly" := by
  have hprotocol := listener_hears_stream .incremental (by decide) "Requests" "nightly"
    ⟨"local", "main", 60⟩ [] [.start 0, .observe .occurrence 5, .stop 9]
  refine ⟨hprotocol.2.1.mpr ⟨[.start 0, .observe .occurrence 5], 9, [], rfl, ?_⟩,
    hprotocol.2.2.2.1 (by simp)⟩
  simp only [isRunning_iff, after_cons, take]
  exact phase_observe _ _ _

end Statistics

end JobScript
