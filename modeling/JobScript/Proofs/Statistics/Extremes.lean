import JobScript.Proofs.Statistics.Accounting
import Mathlib.Data.List.Induction

/-!
# Least, Greatest and Last Points

Trackers of times and of samples keep the least and the greatest point as points come in, and
trackers of times the last one too. These are the ends of what was accepted: nothing else is kept of
the points, and nothing but a point that is accepted changes them.

## Architecture

- `Chronicle.amounts`: what the accepted points amount to, in order
- `Chronicle.HasExtremes`, `Chronicle.HasExtremes.accept`: one more point
- `Statistics.TellsExtremes`: the invariant, by kind
- `Statistics.tellsExtremes_after`: it holds after any sequence of events
- `Statistics.exists_time_after` and so on: the same for statistics of one kind
-/

namespace JobScript

/-! ## Section 1: Amounts -/

namespace Chronicle

/-- What the accepted points amount to, in order. -/
def amounts (c : Chronicle) : List Int :=
  c.points.map Prod.snd

variable {c : Chronicle}

@[simp] theorem amounts_start (now : Instant) : (c.start now).amounts = c.amounts :=
  congrArg (List.map Prod.snd) (points_start now)

@[simp] theorem amounts_stop (now : Instant) : (c.stop now).amounts = c.amounts :=
  congrArg (List.map Prod.snd) (points_stop now)

@[simp] theorem amounts_accept (amount : Int) (now : Instant) :
    (c.accept amount now).amounts = c.amounts ++ [amount] := by
  simp [amounts, accept]

/-- While points are accepted, an observation adds what it amounts to. -/
theorem amounts_observe (hopen : c.isOpen = true) (kind : TrackerKind) (o : Observation)
    (now : Instant) :
    (c.observe kind o now).amounts = c.amounts ++ (kind.amount? c.timer o now).toList := by
  rw [observe_of_open hopen]
  cases kind.amount? c.timer o now with
  | none => exact (List.append_nil _).symm
  | some amount => exact amounts_accept amount now

/-! ## Section 2: One more point -/

theorem min?_concat (amounts : List Int) (amount : Int) :
    (amounts ++ [amount]).min? = some (amounts.min?.elim amount (min · amount)) := by
  cases amounts with
  | nil => rfl
  | cons first rest =>
    change some ((rest ++ [amount]).foldl min first) = some (min (rest.foldl min first) amount)
    rw [List.foldl_append]
    rfl

theorem max?_concat (amounts : List Int) (amount : Int) :
    (amounts ++ [amount]).max? = some (amounts.max?.elim amount (max · amount)) := by
  cases amounts with
  | nil => rfl
  | cons first rest =>
    change some ((rest ++ [amount]).foldl max first) = some (max (rest.foldl max first) amount)
    rw [List.foldl_append]
    rfl

/-- Least and greatest point of a chronicle, as values that measure so much. -/
structure HasExtremes {α : Type} (measure : α → Int) (c : Chronicle) (least greatest : Option α) :
    Prop where
  least : least.map measure = c.amounts.min?
  greatest : greatest.map measure = c.amounts.max?

/-- A point that is accepted is compared with the extremes so far. -/
theorem HasExtremes.accept {α : Type} [Min α] [Max α] {measure : α → Int}
    {least greatest : Option α} (h : c.HasExtremes measure least greatest)
    (hmin : ∀ a b, measure (min a b) = min (measure a) (measure b))
    (hmax : ∀ a b, measure (max a b) = max (measure a) (measure b)) (point : α) (now : Instant) :
    (c.accept (measure point) now).HasExtremes measure (some (least.elim point (min · point)))
      (some (greatest.elim point (max · point))) where
  least := by
    rw [amounts_accept, min?_concat, ← h.least]
    cases least with
    | none => rfl
    | some m => exact congrArg some (hmin m point)
  greatest := by
    rw [amounts_accept, max?_concat, ← h.greatest]
    cases greatest with
    | none => rfl
    | some m => exact congrArg some (hmax m point)

theorem HasExtremes.of_amounts {α : Type} {measure : α → Int} {least greatest : Option α}
    {c' : Chronicle} (h : c.HasExtremes measure least greatest) (hamounts : c'.amounts = c.amounts) :
    c'.HasExtremes measure least greatest :=
  ⟨by rw [hamounts, h.least], by rw [hamounts, h.greatest]⟩

end Chronicle

/-- A span as what a point of time amounts to. -/
def Span.amount (span : Span) : Int :=
  (span : Nat)

theorem Span.amount_min (a b : Span) : (min a b).amount = min a.amount b.amount := by
  simp only [Span, amount] at *
  omega

theorem Span.amount_max (a b : Span) : (max a b).amount = max a.amount b.amount := by
  simp only [Span, amount] at *
  omega

theorem toInt_min (a b : Int32) : (min a b).toInt = min a.toInt b.toInt := by
  change (if a ≤ b then a else b).toInt = _
  rw [apply_ite Int32.toInt]
  simp only [Int32.le_iff_toInt_le, Int.min_def]

theorem toInt_max (a b : Int32) : (max a b).toInt = max a.toInt b.toInt := by
  change (if a ≤ b then b else a).toInt = _
  rw [apply_ite Int32.toInt]
  simp only [Int32.le_iff_toInt_le, Int.max_def]

/-! ## Section 3: Events -/

/-- What a tracker of times tells of its points one by one. -/
structure TimeTracker.TellsExtremes (c : Chronicle) (t : TimeTracker) : Prop where
  extremes : c.HasExtremes Span.amount t.least t.greatest
  last : t.last.map Span.amount = c.amounts.getLast?

/-- What statistics tell of their points one by one. Other kinds keep sums only. -/
def Statistics.TellsExtremes (c : Chronicle) : Statistics → Prop
  | .time t => t.TellsExtremes c
  | .integerValue t => c.HasExtremes Int32.toInt t.least t.greatest
  | .incremental _ | .categorical _ => True

namespace TimeTracker.TellsExtremes

variable {c c' : Chronicle} {t t' : TimeTracker}

/-- Only the points and what is told of them matter. -/
theorem of_amounts (h : t.TellsExtremes c) (hamounts : c'.amounts = c.amounts)
    (hleast : t'.least = t.least) (hgreatest : t'.greatest = t.greatest)
    (hlast : t'.last = t.last) : t'.TellsExtremes c' where
  extremes := by
    rw [hleast, hgreatest]
    exact h.extremes.of_amounts hamounts
  last := by
    rw [hlast, hamounts]
    exact h.last

/-- A timing that is recorded is the last one. -/
theorem record (h : t.TellsExtremes c) (hrunning : t.intervals.core.isRunning = true)
    (elapsed : Span) (now : Instant) :
    (t.record elapsed now).1.TellsExtremes (c.accept elapsed.amount now) := by
  simp only [TimeTracker.record, hrunning, if_true]
  constructor
  · exact h.extremes.accept Span.amount_min Span.amount_max elapsed now
  · simp

theorem startTimer (h : t.TellsExtremes c) (hamounts : c'.amounts = c.amounts) (now : Instant) :
    (t.startTimer now).TellsExtremes c' := by
  refine h.of_amounts hamounts ?_ ?_ ?_ <;>
    · simp only [TimeTracker.startTimer]
      split <;> rfl

/-- While the tracker runs, the timing that is open is recorded, and without one nothing is. -/
theorem stopTimer (h : t.TellsExtremes c) (hrunning : t.intervals.core.isRunning = true)
    (now : Instant)
    (hamounts : c'.amounts = c.amounts ++
      (t.timer.map fun started => Span.amount (now - started)).toList) :
    (t.stopTimer now).1.TellsExtremes c' := by
  cases htimer : t.timer with
  | none =>
    rw [htimer] at hamounts
    simp only [TimeTracker.stopTimer, htimer]
    exact h.of_amounts (hamounts.trans (List.append_nil _)) rfl rfl rfl
  | some started =>
    rw [htimer] at hamounts
    have hforgotten : ({ t with timer := none } : TimeTracker).TellsExtremes c :=
      h.of_amounts rfl rfl rfl rfl
    have hrecord := hforgotten.record hrunning (now - started) now
    simp only [TimeTracker.stopTimer, htimer]
    exact hrecord.of_amounts (hamounts.trans (Chronicle.amounts_accept _ now).symm) rfl rfl rfl

/-- While the tracker runs, it tells what an observation adds. -/
theorem observe (h : t.TellsExtremes c) (htimer : t.timer = c.timer)
    (hrunning : t.intervals.core.isRunning = true) (o : Observation) (now : Instant)
    (hamounts : c'.amounts = c.amounts ++ (TrackerKind.time.amount? c.timer o now).toList) :
    ((Statistics.time t).observe o now).1.TellsExtremes c' := by
  cases o with
  | timerStarted => exact h.startTimer (hamounts.trans (List.append_nil _)) now
  | timerStopped =>
    rw [← htimer] at hamounts
    exact h.stopTimer hrunning now hamounts
  | elapsed span =>
    have hrecord := h.record hrunning span now
    exact hrecord.of_amounts (hamounts.trans (Chronicle.amounts_accept _ now).symm) rfl rfl rfl
  | _ => exact h.of_amounts (hamounts.trans (List.append_nil _)) rfl rfl rfl

end TimeTracker.TellsExtremes

/-- While the tracker runs, a sample is compared with the extremes. -/
theorem IntegerValueTracker.hasExtremes_add {c c' : Chronicle} {t : IntegerValueTracker}
    (h : c.HasExtremes Int32.toInt t.least t.greatest)
    (hrunning : t.intervals.core.isRunning = true) (value : Int32) (now : Instant)
    (hamounts : c'.amounts = c.amounts ++ [value.toInt]) :
    c'.HasExtremes Int32.toInt (t.add value now).1.least (t.add value now).1.greatest := by
  have haccept := h.accept toInt_min toInt_max value now
  simp only [IntegerValueTracker.add, hrunning, if_true]
  exact haccept.of_amounts (hamounts.trans (Chronicle.amounts_accept _ now).symm)

namespace Statistics

variable {length : Span} {c : Chronicle} {s : Statistics}

theorem TellsExtremes.observe_of_open (h : s.TellsExtremes c) (hfollows : s.Follows length c)
    (hopen : c.isOpen = true) (o : Observation) (now : Instant) :
    (s.observe o now).1.TellsExtremes (c.observe s.kind o now) := by
  have hrunning : s.isRunning = true := hfollows.isRunning_eq.trans hopen
  cases s with
  | incremental t => cases o <;> trivial
  | time t =>
    exact TimeTracker.TellsExtremes.observe h hfollows.2 hrunning o now
      (Chronicle.amounts_observe hopen .time o now)
  | integerValue t =>
    have hamounts := Chronicle.amounts_observe hopen .integerValue o now
    cases o with
    | sample value => exact IntegerValueTracker.hasExtremes_add h hrunning value now hamounts
    | _ => exact Chronicle.HasExtremes.of_amounts h (hamounts.trans (List.append_nil _))
  | categorical t => cases o <;> trivial

theorem TellsExtremes.take (h : s.TellsExtremes c) (hfollows : s.Follows length c)
    (wf : c.WellFormed s.kind) (event : TrackerEvent) :
    (s.take event).1.TellsExtremes (c.take s.kind event) := by
  cases event with
  | start now =>
    cases s with
    | time t =>
      exact TimeTracker.TellsExtremes.of_amounts h (Chronicle.amounts_start now) rfl rfl rfl
    | integerValue t => exact Chronicle.HasExtremes.of_amounts h (Chronicle.amounts_start now)
    | _ => trivial
  | stop now =>
    cases s with
    | time t =>
      refine TimeTracker.TellsExtremes.of_amounts h (Chronicle.amounts_stop now) ?_ ?_ ?_ <;>
        · simp only [TimeTracker.stop]
          split <;> rfl
    | integerValue t => exact Chronicle.HasExtremes.of_amounts h (Chronicle.amounts_stop now)
    | _ => trivial
  | observe o now =>
    cases hopen : c.isOpen with
    | true => exact h.observe_of_open hfollows hopen o now
    | false =>
      have hidle : s.isRunning = false := hfollows.isRunning_eq.trans hopen
      have htimer := hfollows.timer_eq_none (wf.timer_of_closed hopen)
      simp only [Statistics.take, Chronicle.take, observe_of_not_running now hidle htimer,
        Chronicle.observe_of_closed hopen]
      exact h
  | rename name =>
    cases s with
    | time t => exact TimeTracker.TellsExtremes.of_amounts h rfl rfl rfl rfl
    | _ => exact h
  | listen job =>
    cases s with
    | time t => exact TimeTracker.TellsExtremes.of_amounts h rfl rfl rfl rfl
    | _ => exact h

/-- **Least, greatest and last point are told exactly**, whatever statistics take in. -/
theorem tellsExtremes_after (kind : TrackerKind) (name : String) (context : CollectionContext)
    (events : List TrackerEvent) :
    ((ofContext kind name context).after events).TellsExtremes
      (Chronicle.ofEvents kind events) := by
  induction events using List.reverseRecOn with
  | nil =>
    cases kind with
    | time => exact ⟨⟨rfl, rfl⟩, rfl⟩
    | integerValue => exact ⟨rfl, rfl⟩
    | incremental | categorical => trivial
  | append_singleton events event ih =>
    have hstep := ih.take (follows_after kind name context events)
      (by rw [kind_after, kind_ofContext]; exact Chronicle.wellFormed_ofEvents kind events) event
    rw [kind_after, kind_ofContext] at hstep
    rw [after_append, Chronicle.ofEvents, List.foldl_append]
    exact hstep

/-! ## Section 4: Statistics of one kind -/

theorem exists_incremental_after (name : String) (context : CollectionContext)
    (events : List TrackerEvent) :
    ∃ t : IncrementalTracker,
      (ofContext .incremental name context).after events = .incremental t ∧
      Collector.Follows Occurrences.addPoint context.interval
        (Chronicle.ofEvents .incremental events) t := by
  have hfollows := follows_after .incremental name context events
  have hkind := kind_after (ofContext .incremental name context) events
  cases hafter : (ofContext .incremental name context).after events with
  | incremental t =>
    rw [hafter] at hfollows
    exact ⟨t, rfl, hfollows⟩
  | _ =>
    rw [hafter, kind_ofContext] at hkind
    cases hkind

theorem exists_time_after (name : String) (context : CollectionContext)
    (events : List TrackerEvent) :
    ∃ t : TimeTracker, (ofContext .time name context).after events = .time t ∧
      t.intervals.Follows Timings.addPoint context.interval (Chronicle.ofEvents .time events) ∧
      t.TellsExtremes (Chronicle.ofEvents .time events) := by
  have hfollows := follows_after .time name context events
  have htells := tellsExtremes_after .time name context events
  have hkind := kind_after (ofContext .time name context) events
  cases hafter : (ofContext .time name context).after events with
  | time t =>
    rw [hafter] at hfollows htells
    exact ⟨t, rfl, hfollows.1, htells⟩
  | _ =>
    rw [hafter, kind_ofContext] at hkind
    cases hkind

theorem exists_integerValue_after (name : String) (context : CollectionContext)
    (events : List TrackerEvent) :
    ∃ t : IntegerValueTracker, (ofContext .integerValue name context).after events =
        .integerValue t ∧
      t.intervals.Follows Samples.addPoint context.interval
        (Chronicle.ofEvents .integerValue events) ∧
      (Chronicle.ofEvents .integerValue events).HasExtremes Int32.toInt t.least t.greatest := by
  have hfollows := follows_after .integerValue name context events
  have htells := tellsExtremes_after .integerValue name context events
  have hkind := kind_after (ofContext .integerValue name context) events
  cases hafter : (ofContext .integerValue name context).after events with
  | integerValue t =>
    rw [hafter] at hfollows htells
    exact ⟨t, rfl, hfollows, htells⟩
  | _ =>
    rw [hafter, kind_ofContext] at hkind
    cases hkind

end Statistics

end JobScript
