import JobScript.Proofs.Statistics.Partition
import JobScript.Proofs.Statistics.Tally
import Mathlib.Algebra.BigOperators.Ring.Finset
import Mathlib.Algebra.Order.BigOperators.Group.List
import Mathlib.Algebra.Order.Ring.Nat

/-!
# What Timings Measure

A tracker of times pairs the stops of its timer with the starts. Which timings there are can be read
off the events without any tracker: a stop of the timer completes the start of it that comes last,
if the timer was not stopped since, and operations measured elsewhere come with their time. Whatever
the tracker tells is of these timings, and of nothing else.

## Architecture

- `Timing.sinceStart`, `Timing.runs`: the events that a tracker hears, and whether it runs
- `Timing.openTiming?`, `Timing.measured`: the timings of a sequence of events
- `Timing.Agrees`: chronicles accept these timings, step by step
- `Collector.Follows.sum_sum`: no amount is missing from the intervals
- `Statistics.timings_measured`: what a tracker of times tells
-/

namespace JobScript

/-! ## Section 1: Timings of events -/

namespace TrackerEvent

def isStart : TrackerEvent → Bool
  | .start _ => true
  | _ => false

def isStop : TrackerEvent → Bool
  | .stop _ => true
  | _ => false

/-- The open timing that a start or a stop of the timer leaves behind. -/
def setsTimer? : TrackerEvent → Option (Option Instant)
  | .observe .timerStarted now => some (some now)
  | .observe .timerStopped _ => some none
  | _ => none

end TrackerEvent

namespace Timing

/-- The events from the first start on. -/
def sinceStart (events : List TrackerEvent) : List TrackerEvent :=
  events.dropWhile fun event => !event.isStart

/-- After these events a tracker runs: it was started, and not stopped since. -/
def runs (events : List TrackerEvent) : Bool :=
  !(sinceStart events).isEmpty && !(sinceStart events).any TrackerEvent.isStop

/-- The last start of the timer, if the timer was not stopped since. -/
def openTiming? (events : List TrackerEvent) : Option Instant :=
  (events.filterMap TrackerEvent.setsTimer?).getLast?.join

/-- The time that an event completes or brings along while the tracker runs, when of the events
before it those that are heard may have started the timer. -/
def measured? (heard : List TrackerEvent → List TrackerEvent) (before : List TrackerEvent)
    (event : TrackerEvent) : Option Span :=
  if runs before then
    match event with
    | .observe .timerStopped now => (openTiming? (heard before)).map (now - ·)
    | .observe (.elapsed span) _ => some span
    | _ => none
  else none

/-- The timings of a sequence of events, in order. -/
def measured (heard : List TrackerEvent → List TrackerEvent) (events : List TrackerEvent) :
    List Span :=
  (List.range events.length).filterMap fun i =>
    events[i]?.bind (measured? heard (events.take i))

variable {heard : List TrackerEvent → List TrackerEvent} (events : List TrackerEvent)
  (event : TrackerEvent)

theorem sinceStart_concat :
    sinceStart (events ++ [event]) =
      if (sinceStart events).isEmpty then (if event.isStart then [event] else [])
      else sinceStart events ++ [event] := by
  rw [sinceStart, List.dropWhile_append]
  cases hstart : event.isStart <;> simp [sinceStart, hstart]

theorem openTiming?_concat :
    openTiming? (events ++ [event]) = event.setsTimer?.getD (openTiming? events) := by
  rw [openTiming?, List.filterMap_append]
  cases hsets : event.setsTimer? <;> simp [openTiming?, hsets]

/-- One more event completes one timing or none. -/
theorem measured_concat :
    measured heard (events ++ [event]) =
      measured heard events ++ (measured? heard events event).toList := by
  have hbefore : (List.range events.length).filterMap
        (fun i => (events ++ [event])[i]?.bind (measured? heard ((events ++ [event]).take i))) =
      measured heard events := by
    apply List.filterMap_congr
    intro i hi
    have hlt := List.mem_range.mp hi
    rw [List.getElem?_append_left hlt, List.take_append_of_le_length (Nat.le_of_lt hlt)]
  rw [measured, List.length_append, List.length_singleton, List.range_succ, List.filterMap_append,
    hbefore]
  congr 1
  simp only [List.filterMap_cons, List.filterMap_nil, List.getElem?_concat_length,
    Option.bind_some, List.take_left']
  cases measured? heard events event <;> rfl

/-! ## Section 2: Chronicles accept the timings -/

/-- What a chronicle keeps of a sequence of events is what the events say. -/
structure Agrees (c : Chronicle) : Prop where
  started : c.startedAt.isSome = !(sinceStart events).isEmpty
  stopped : c.stoppedAt.isSome = (sinceStart events).any TrackerEvent.isStop
  timer : c.isOpen = true → c.timer = openTiming? (sinceStart events)
  amounts : c.amounts = (measured sinceStart events).map Span.amount

namespace Agrees

variable {events} {c : Chronicle}

theorem runs_eq (h : Agrees events c) : runs events = c.isOpen := by
  rw [runs, ← h.started, ← h.stopped, Chronicle.isOpen, Option.not_isSome]

/-- Before the start, there is nothing to hear of. -/
theorem sinceStart_of_unstarted (h : Agrees events c) (hnone : c.startedAt = none) :
    sinceStart events = [] := by
  have hstarted := h.started
  rw [hnone] at hstarted
  simpa using hstarted

/-- From the start on, everything is heard. -/
theorem sinceStart_of_started (h : Agrees events c) (hsome : c.startedAt.isSome = true) :
    sinceStart (events ++ [event]) = sinceStart events ++ [event] := by
  have hempty : (sinceStart events).isEmpty = false := by
    simpa using h.started.symm.trans hsome
  rw [sinceStart_concat, hempty]
  rfl

/-- An event that completes no timing, does not change whether the tracker runs and leaves the timer
of a running one alone. -/
theorem concat_of_idle (h : Agrees events c)
    (hstart : event.isStart = false ∨ c.startedAt.isSome = true)
    (hstop : event.isStop = false ∨ c.isOpen = false)
    (htimer : event.setsTimer? = none ∨ c.isOpen = false)
    (hmeasured : measured? sinceStart events event = none) : Agrees (events ++ [event]) c := by
  have hamounts : c.amounts = (measured sinceStart (events ++ [event])).map Span.amount := by
    rw [measured_concat, hmeasured, h.amounts, Option.toList_none, List.append_nil]
  cases hsome : c.startedAt.isSome with
  | false =>
    have hnot : event.isStart = false := by simpa [hsome] using hstart
    have hsince : sinceStart (events ++ [event]) = sinceStart events := by
      rw [sinceStart_concat, h.sinceStart_of_unstarted (by simpa using hsome)]
      simp [hnot]
    exact ⟨by rw [hsince]; exact h.started, by rw [hsince]; exact h.stopped,
      by rw [hsince]; exact h.timer, hamounts⟩
  | true =>
    have hsince := h.sinceStart_of_started event hsome
    constructor
    · rw [hsince, hsome]
      simp
    · rw [hsince, List.any_append, ← h.stopped]
      rcases hstop with hstop | hclosed
      · simp [hstop]
      · -- The tracker was started and does not run, so it was stopped before
        rw [Chronicle.isOpen, hsome, Bool.true_and] at hclosed
        rw [Option.isNone_eq_false_iff.mp hclosed, Bool.true_or]
    · intro hopen
      have hno : event.setsTimer? = none := by simpa [hopen] using htimer
      rw [hsince, openTiming?_concat, hno, h.timer hopen]
      rfl
    · exact hamounts

theorem start (h : Agrees events c) (wf : c.WellFormed .time) (now : Instant) :
    Agrees (events ++ [.start now]) (c.start now) := by
  have hmeasured : measured? sinceStart events (.start now) = none := ite_self none
  cases hstarted : c.startedAt with
  | none =>
    have hc : c.start now = { c with startedAt := some now, latest := now } := by
      simp only [Chronicle.start, hstarted]
    have hsince : sinceStart (events ++ [.start now]) = [.start now] := by
      rw [sinceStart_concat, h.sinceStart_of_unstarted hstarted]
      rfl
    -- No timing is open before the start
    have htimer : c.timer = none := wf.timer_of_closed (by simp [Chronicle.isOpen, hstarted])
    rw [hc]
    constructor
    · rw [hsince]
      rfl
    · rw [hsince, (wf.unstarted hstarted).2]
      rfl
    · intro _
      rw [hsince]
      exact htimer
    · rw [measured_concat, hmeasured, Option.toList_none, List.append_nil]
      exact h.amounts
  | some start =>
    have hc : c.start now = c := by simp only [Chronicle.start, hstarted]
    rw [hc]
    exact h.concat_of_idle _ (.inr (by rw [hstarted]; rfl)) (.inl rfl) (.inl rfl) hmeasured

theorem stop (h : Agrees events c) (now : Instant) :
    Agrees (events ++ [.stop now]) (c.stop now) := by
  have hmeasured : measured? sinceStart events (.stop now) = none := ite_self none
  cases hopen : c.isOpen with
  | true =>
    have hc : c.stop now = { c with stoppedAt := some (max c.latest now), timer := none } :=
      if_pos hopen
    obtain ⟨start, hstarted, -⟩ := c.isOpen_iff.mp hopen
    have hsome : c.startedAt.isSome = true := by rw [hstarted]; rfl
    have hsince := h.sinceStart_of_started (.stop now) hsome
    rw [hc]
    constructor
    · rw [hsince, hsome]
      simp
    · rw [hsince]
      simp [TrackerEvent.isStop]
    · intro hopen'
      simp [Chronicle.isOpen] at hopen'
    · rw [measured_concat, hmeasured, Option.toList_none, List.append_nil]
      exact h.amounts
  | false =>
    have hc : c.stop now = c := if_neg (Bool.eq_false_iff.mp hopen)
    rw [hc]
    exact h.concat_of_idle _ (.inl rfl) (.inr hopen) (.inr hopen) hmeasured

/-- What an observation amounts to while the tracker runs is what it completes. -/
theorem amount?_eq (h : Agrees events c) (hopen : c.isOpen = true) (o : Observation)
    (now : Instant) :
    TrackerKind.time.amount? c.timer o now =
      (measured? sinceStart events (.observe o now)).map Span.amount := by
  unfold measured?
  rw [if_pos (h.runs_eq.trans hopen), h.timer hopen]
  cases o with
  | timerStopped => exact (Option.map_map _ _ _).symm
  | _ => rfl

theorem observe (h : Agrees events c) (o : Observation) (now : Instant) :
    Agrees (events ++ [.observe o now]) (c.observe .time o now) := by
  cases hopen : c.isOpen with
  | true =>
    obtain ⟨start, hstarted, -⟩ := c.isOpen_iff.mp hopen
    have hsome : c.startedAt.isSome = true := by rw [hstarted]; rfl
    have hsince := h.sinceStart_of_started (.observe o now) hsome
    have hamounts := Chronicle.amounts_observe hopen .time o now
    rw [h.amount?_eq hopen] at hamounts
    have htimer : (c.observe .time o now).timer = o.timerAfter c.timer now := by
      rw [Chronicle.observe_of_open hopen]
    -- A point changes neither the start nor the stop
    have hphase : (c.observe .time o now).startedAt = c.startedAt ∧
        (c.observe .time o now).stoppedAt = c.stoppedAt := by
      rw [Chronicle.observe_of_open hopen]
      cases TrackerKind.time.amount? c.timer o now <;> exact ⟨rfl, rfl⟩
    constructor
    · rw [hphase.1, hsince, hsome]
      simp
    · rw [hphase.2, hsince, h.stopped]
      simp [TrackerEvent.isStop]
    · intro _
      rw [htimer, hsince, openTiming?_concat, ← h.timer hopen]
      cases o <;> rfl
    · rw [hamounts, measured_concat, h.amounts, List.map_append]
      cases measured? sinceStart events (.observe o now) <;> rfl
  | false =>
    rw [Chronicle.observe_of_closed hopen]
    exact h.concat_of_idle _ (.inl rfl) (.inl rfl) (.inr hopen)
      (if_neg (by rw [h.runs_eq, hopen]; exact Bool.false_ne_true))

/-- Every event is heard alike. -/
theorem take (h : Agrees events c) (wf : c.WellFormed .time) :
    Agrees (events ++ [event]) (c.take .time event) := by
  cases event with
  | start now => exact h.start wf now
  | stop now => exact h.stop now
  | observe o now => exact h.observe o now
  | rename name => exact h.concat_of_idle _ (.inl rfl) (.inl rfl) (.inl rfl) (ite_self none)
  | listen job => exact h.concat_of_idle _ (.inl rfl) (.inl rfl) (.inl rfl) (ite_self none)

end Agrees

/-- **Chronicles accept the timings**, whatever the events. -/
theorem agrees_ofEvents : Agrees events (Chronicle.ofEvents .time events) := by
  induction events using List.reverseRecOn with
  | nil => exact ⟨rfl, rfl, fun _ => rfl, rfl⟩
  | append_singleton events event ih =>
    rw [Chronicle.ofEvents, List.foldl_append]
    exact ih.take event (Chronicle.wellFormed_ofEvents .time events)

end Timing

/-! ## Section 3: Totals -/

/-- No amount is missing from the buckets, and none is in two of them. -/
theorem Collector.Follows.sum_sum {β : Type} [Bucket β] {kind : TrackerKind} {add : β → Int → β}
    {tally : β → Tally} {length : Span} {c : Chronicle} {t : Collector β}
    (h : t.Follows add length c) (hexact : Exact kind add tally) (wf : c.WellFormed kind)
    (hordered : c.Ordered) (hcount : ∀ i, (c.amountsIn length i).length < 2 ^ 32) :
    (t.buckets.map fun b => (tally b).sum).sum = c.amounts.sum := by
  have hbuckets : (t.buckets.map fun b => (tally b).sum) =
      ((List.range (c.closedCount length + 1)).map (c.amountsIn length)).map List.sum := by
    rw [h.buckets, List.map_map, List.map_map]
    exact List.map_congr_left fun i _ =>
      congrArg Tally.sum (Chronicle.tally_bucketIn hexact wf (hcount i))
  have hall := Chronicle.flatMap_amountsIn hordered h.length_pos fun p hp =>
    Chronicle.passed_lt_closedCount_add_one wf hp
  rw [hbuckets, ← hall, List.flatMap_def, List.sum_flatten]

section Extremes

variable {α β : Type} {f : α → β}

theorem min?_map [Min α] [Min β] (hf : ∀ a b, f (min a b) = min (f a) (f b)) (l : List α) :
    (l.map f).min? = l.min?.map f := by
  cases l with
  | nil => rfl
  | cons a l =>
    change some ((l.map f).foldl min (f a)) = some (f (l.foldl min a))
    rw [List.foldl_map, List.foldl_hom f fun x y => (hf x y).symm]

theorem max?_map [Max α] [Max β] (hf : ∀ a b, f (max a b) = max (f a) (f b)) (l : List α) :
    (l.map f).max? = l.max?.map f := by
  cases l with
  | nil => rfl
  | cons a l =>
    change some ((l.map f).foldl max (f a)) = some (f (l.foldl max a))
    rw [List.foldl_map, List.foldl_hom f fun x y => (hf x y).symm]

end Extremes

theorem Span.amount_injective : Function.Injective Span.amount :=
  fun _ _ h => Int.ofNat.inj h

theorem Span.sum_amount (durations : List Span) :
    (durations.map Span.amount).sum = (durations.sum : Nat) :=
  (Nat.cast_list_sum durations).symm

namespace TimeTracker

variable {c : Chronicle} {length : Span} {t : TimeTracker} {durations : List Span}

theorem totalCount_of_follows (h : t.intervals.Follows Timings.addPoint length c)
    (wf : c.WellFormed .time) (hcount : ∀ i, (c.amountsIn length i).length < 2 ^ 32)
    (hdurations : c.amounts = durations.map Span.amount) : t.totalCount = durations.length := by
  have hpoints := Collector.Follows.sum_count h Timings.exact wf hcount
  calc t.totalCount
      _ = c.points.length := hpoints
      _ = c.amounts.length := (List.length_map _).symm
      _ = durations.length := by rw [hdurations, List.length_map]

theorem totalDuration_of_follows (h : t.intervals.Follows Timings.addPoint length c)
    (wf : c.WellFormed .time) (hordered : c.Ordered)
    (hcount : ∀ i, (c.amountsIn length i).length < 2 ^ 32)
    (hdurations : c.amounts = durations.map Span.amount) : t.totalDuration = durations.sum := by
  have hsum := Collector.Follows.sum_sum h Timings.exact wf hordered hcount
  rw [hdurations, Span.sum_amount] at hsum
  have htotal : (t.intervals.buckets.map fun b => (Timings.tally b).sum).sum =
      (t.totalDuration : Nat) := by
    have hcast := Span.sum_amount (t.intervals.buckets.map Timings.total)
    rw [List.map_map] at hcast
    exact hcast
  exact Int.ofNat.inj (htotal.symm.trans hsum)

end TimeTracker

/-! ## Section 4: Trackers tell the timings -/

namespace Statistics

open Timing

/-- **Trackers of times measure exactly the completed timings.** A timing is completed by a stop of
the timer while the tracker runs, if the timer was started since the tracker was, and not stopped in
between; it takes the time from the last such start, or none if time has run backwards. Together
with the operations that come with their time, these are all: a stop without a start, a start that
another one replaces, and one that is still open when the tracker stops add nothing. -/
theorem timings_measured (name : String) (context : CollectionContext)
    (events : List TrackerEvent)
    (hcount : ∀ i,
      ((Chronicle.ofEvents .time events).amountsIn context.interval i).length < 2 ^ 32) :
    let durations := measured sinceStart events
    ∃ t : TimeTracker, (ofContext .time name context).after events = .time t ∧
      t.totalCount = durations.length ∧ t.totalDuration = durations.sum ∧
      t.least = durations.min? ∧ t.greatest = durations.max? ∧ t.last = durations.getLast? ∧
      (∀ least, t.least = some least → least * t.totalCount ≤ t.totalDuration) ∧
      (∀ greatest, t.greatest = some greatest → t.totalDuration ≤ greatest * t.totalCount) := by
  intro durations
  have wf := Chronicle.wellFormed_ofEvents .time events
  have hdurations : (Chronicle.ofEvents .time events).amounts = durations.map Span.amount :=
    (agrees_ofEvents events).amounts
  obtain ⟨t, hafter, hfollows, htells⟩ := exists_time_after name context events
  have htotal := TimeTracker.totalCount_of_follows hfollows wf hcount hdurations
  have hduration := TimeTracker.totalDuration_of_follows hfollows wf
    (Chronicle.ordered_ofEvents .time events) hcount hdurations
  have hleast : t.least = durations.min? := by
    apply Option.map_injective Span.amount_injective
    rw [htells.extremes.least, hdurations, min?_map Span.amount_min]
  have hgreatest : t.greatest = durations.max? := by
    apply Option.map_injective Span.amount_injective
    rw [htells.extremes.greatest, hdurations, max?_map Span.amount_max]
  have hlast : t.last = durations.getLast? := by
    apply Option.map_injective Span.amount_injective
    rw [htells.last, hdurations, List.getLast?_map]
  refine ⟨t, hafter, htotal, hduration, hleast, hgreatest, hlast, ?_, ?_⟩
  · intro least hsome
    have hle := List.card_nsmul_le_sum durations least
      (List.min?_eq_some_iff.mp (hleast.symm.trans hsome)).2
    rwa [nsmul_eq_mul, Nat.cast_id, ← htotal, ← hduration, Nat.mul_comm] at hle
  · intro greatest hsome
    have hle := List.sum_le_card_nsmul durations greatest
      (List.max?_eq_some_iff.mp (hgreatest.symm.trans hsome)).2
    rwa [nsmul_eq_mul, Nat.cast_id, ← htotal, ← hduration, Nat.mul_comm] at hle

/-- The timer is started twice and stopped twice, and started once more. An operation that took two
seconds comes with its time. -/
theorem two_timings_measured :
    let events := [TrackerEvent.start 0, .observe .timerStarted 1000000000,
      .observe .timerStarted 2000000000, .observe .timerStopped 5000000000,
      .observe .timerStopped 6000000000, .observe (.elapsed 2000000000) 4000000000,
      .observe .timerStarted 7000000000, .stop 8000000000, .observe .timerStopped 9000000000]
    (∀ i, ((Chronicle.ofEvents .time events).amountsIn 60000000000 i).length < 2 ^ 32) ∧
      ∃ t : TimeTracker,
        (ofContext .time "requests" ⟨"client-0", "thread-0", 60⟩).after events = .time t ∧
          t.totalCount = 2 ∧ t.totalDuration = 5000000000 ∧ t.least = some 2000000000 ∧
          t.greatest = some 3000000000 ∧ t.last = some 2000000000 := by
  intro events
  have hcount : ∀ i,
      ((Chronicle.ofEvents .time events).amountsIn 60000000000 i).length < 2 ^ 32 :=
    fun i => Nat.lt_of_le_of_lt (Chronicle.length_amountsIn_le _ _ i) (by decide)
  have hmeasured : measured sinceStart events = [3000000000, 2000000000] := by decide
  obtain ⟨t, hafter, htotal, hduration, hleast, hgreatest, hlast, -⟩ :=
    timings_measured "requests" ⟨"client-0", "thread-0", 60⟩ events hcount
  rw [hmeasured] at htotal hduration hleast hgreatest hlast
  exact ⟨hcount, t, hafter, htotal, hduration, hleast, hgreatest, hlast⟩

/-- A start of the timer that comes before the start of the tracker is not heard. -/
theorem early_timing_not_measured :
    ¬ ∀ (name : String) (context : CollectionContext) (events : List TrackerEvent)
        (t : TimeTracker),
      (∀ i, ((Chronicle.ofEvents .time events).amountsIn context.interval i).length < 2 ^ 32) →
        (ofContext .time name context).after events = .time t →
          t.totalCount = (measured id events).length := by
  intro h
  let events := [TrackerEvent.observe .timerStarted 0, .start 1000000000,
    .observe .timerStopped 3000000000]
  have hcount : ∀ i,
      ((Chronicle.ofEvents .time events).amountsIn 60000000000 i).length < 2 ^ 32 :=
    fun i => Nat.lt_of_le_of_lt (Chronicle.length_amountsIn_le _ _ i) (by decide)
  obtain ⟨t, hafter, hfollows, -⟩ :=
    exists_time_after "requests" ⟨"client-0", "thread-0", 60⟩ events
  have htotal : t.totalCount = 0 :=
    TimeTracker.totalCount_of_follows hfollows (Chronicle.wellFormed_ofEvents .time events) hcount
      (agrees_ofEvents events).amounts
  have hclaim := h _ _ events t hcount hafter
  rw [htotal] at hclaim
  revert hclaim
  decide

end Statistics

end JobScript
