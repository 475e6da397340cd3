import JobScript.Proofs.Statistics.Accounting

/-!
# Counts and Sums by Interval

Buckets hold counts that stop at 32 bits and sums that stop at 64. As long as no interval has too
many points, what an interval holds is their exact number and sum; the sum of samples cannot
overflow before their count does.

## Architecture

- `Tally`: number and sum of points, and how each kind of bucket holds them
- `Chronicle.tallyIn`: number and sum of the points of an interval
- `Statistics.Follows.tallies`: the intervals of statistics hold exactly these
- `Statistics.intervals_exact`: the closed form for any sequence of events
-/

namespace JobScript

/-! ## Section 1: Tallies -/

/-- Number and sum of some points. -/
structure Tally where
  count : Nat
  sum : Int
  deriving DecidableEq

namespace Tally

/-- The tally of points that amount to so much each. -/
def ofAmounts (amounts : List Int) : Tally :=
  ⟨amounts.length, amounts.sum⟩

end Tally

/-- Occurrences amount to one each. -/
def Occurrences.tally (o : Occurrences) : Tally :=
  ⟨o.count, o.count⟩

def Timings.tally (timings : Timings) : Tally :=
  ⟨timings.count, (timings.total : Nat)⟩

def Samples.tally (samples : Samples) : Tally :=
  ⟨samples.count, samples.sum⟩

namespace Statistics

/-- Tallies of the closed intervals, oldest first. Categories are not divided into intervals. -/
def closedTallies : Statistics → List Tally
  | .incremental t => t.closed.map Occurrences.tally
  | .time t => t.intervals.closed.map Timings.tally
  | .integerValue t => t.intervals.closed.map Samples.tally
  | .categorical _ => []

/-- The tally of the open interval. -/
def openTally? : Statistics → Option Tally
  | .incremental t => some t.current.tally
  | .time t => some t.intervals.current.tally
  | .integerValue t => some t.intervals.current.tally
  | .categorical _ => none

/-- Number of all points. -/
def totalCount : Statistics → Nat
  | .incremental t => t.totalCount
  | .time t => t.totalCount
  | .integerValue t => t.totalCount
  | .categorical t => t.totalCount

end Statistics

/-! ## Section 2: Buckets hold tallies -/

/-- A way of adding points to buckets is exact for a kind: below the greatest count, the tally of
the bucket is the tally of the points. -/
def Exact {β : Type} [Bucket β] (kind : TrackerKind) (add : β → Int → β) (tally : β → Tally) :
    Prop :=
  ∀ amounts : List Int, (∀ a ∈ amounts, kind.Admits a) → amounts.length < 2 ^ 32 →
    tally (amounts.foldl add Bucket.empty) = Tally.ofAmounts amounts

/-- Below the greatest count, occurrences are counted one by one. -/
theorem Occurrences.foldl_addPoint (count : Nat) (amounts : List Int)
    (h : count + amounts.length < 2 ^ 32) :
    amounts.foldl addPoint ⟨count⟩ = ⟨count + amounts.length⟩ := by
  induction amounts generalizing count with
  | nil => rfl
  | cons a amounts ih =>
    rw [List.length_cons] at h
    -- The count has not reached its limit
    have hadd : addPoint ⟨count⟩ a = ⟨count + 1⟩ := by
      simp only [addPoint, increment, greatest, mk.injEq]
      omega
    rw [List.foldl_cons, hadd, ih (count + 1) (by omega), List.length_cons, mk.injEq]
    omega

/-- Occurrences that amount to one each sum up to their number. -/
theorem Occurrences.exact : Exact .incremental addPoint tally := by
  intro amounts hamounts hlength
  have hsum : amounts.sum = amounts.length := by
    clear hlength
    induction amounts with
    | nil => rfl
    | cons a amounts ih =>
      obtain ⟨hone, hrest⟩ := List.forall_mem_cons.mp hamounts
      change a = 1 at hone
      rw [List.sum_cons, ih hrest, List.length_cons, hone]
      omega
  have hfold := foldl_addPoint 0 amounts (by omega)
  rw [Nat.zero_add] at hfold
  show tally (amounts.foldl addPoint ⟨0⟩) = _
  rw [hfold, tally, Tally.ofAmounts, hsum]

/-- Below the greatest count, timings are counted and summed one by one. -/
theorem Timings.foldl_addPoint (count : Nat) (total : Span) (amounts : List Int)
    (h : count + amounts.length < 2 ^ 32) (hamounts : ∀ a ∈ amounts, 0 ≤ a) :
    tally (amounts.foldl addPoint ⟨count, total⟩) =
      ⟨count + amounts.length, (total : Nat) + amounts.sum⟩ := by
  induction amounts generalizing count total with
  | nil => simp [tally]
  | cons a amounts ih =>
    rw [List.length_cons] at h
    obtain ⟨ha, hrest⟩ := List.forall_mem_cons.mp hamounts
    have hadd : addPoint ⟨count, total⟩ a = ⟨count + 1, total + a.toNat⟩ := by
      simp only [addPoint, add, greatest, mk.injEq, and_true]
      omega
    rw [List.foldl_cons, hadd, ih (count + 1) (total + a.toNat) (by omega) hrest,
      List.length_cons, List.sum_cons, Tally.mk.injEq]
    simp only [Span] at *
    omega

theorem Timings.exact : Exact .time addPoint tally := by
  intro amounts hamounts hlength
  have hfold := foldl_addPoint 0 0 amounts (by omega) hamounts
  show tally (amounts.foldl addPoint ⟨0, 0⟩) = _
  rw [hfold, Tally.ofAmounts, Nat.zero_add]
  simp

/-- Below the greatest count, samples are counted and summed one by one: each sample has 32 bits,
so the sum stays within 64. -/
theorem Samples.foldl_addPoint (count : Nat) (sum : Int) (amounts : List Int)
    (h : count + amounts.length < 2 ^ 32)
    (hamounts : ∀ a ∈ amounts, TrackerKind.integerValue.Admits a)
    (hlower : -2 ^ 31 * count ≤ sum) (hupper : sum ≤ 2 ^ 31 * count) :
    tally (amounts.foldl addPoint ⟨count, sum⟩) =
      ⟨count + amounts.length, sum + amounts.sum⟩ := by
  induction amounts generalizing count sum with
  | nil => simp [tally]
  | cons a amounts ih =>
    rw [List.length_cons] at h
    obtain ⟨ha, hrest⟩ := List.forall_mem_cons.mp hamounts
    obtain ⟨halower, haupper⟩ : -2 ^ 31 ≤ a ∧ a < 2 ^ 31 := ha
    -- Fewer than 2 ^ 32 samples of 32 bits: neither clamp applies
    have hadd : addPoint ⟨count, sum⟩ a = ⟨count + 1, sum + a⟩ := by
      simp only [addPoint, merge, greatestCount, clampSum, mk.injEq]
      omega
    rw [List.foldl_cons, hadd, ih (count + 1) (sum + a) (by omega) hrest (by omega) (by omega),
      List.length_cons, List.sum_cons, Tally.mk.injEq]
    omega

theorem Samples.exact : Exact .integerValue addPoint tally := by
  intro amounts hamounts hlength
  have hfold := foldl_addPoint 0 0 amounts (by omega) hamounts (by decide) (by decide)
  show tally (amounts.foldl addPoint ⟨0, 0⟩) = _
  rw [hfold, Tally.ofAmounts, Nat.zero_add, Int.zero_add]

/-! ## Section 3: Intervals hold their points -/

namespace Chronicle

variable {kind : TrackerKind} {c : Chronicle} {length : Span}

/-- Number and sum of the points of an interval. -/
def tallyIn (c : Chronicle) (length : Span) (i : Nat) : Tally :=
  Tally.ofAmounts (c.amountsIn length i)

theorem admits_of_mem_amountsIn (wf : c.WellFormed kind) {i : Nat} {a : Int}
    (h : a ∈ c.amountsIn length i) : kind.Admits a := by
  obtain ⟨p, hp, rfl⟩ := List.mem_map.mp h
  exact wf.admits p (List.mem_of_mem_filter hp)

theorem length_amountsIn_le (c : Chronicle) (length : Span) (i : Nat) :
    (c.amountsIn length i).length ≤ c.points.length := by
  rw [amountsIn, List.length_map]
  exact List.length_filter_le _ _

theorem tally_bucketIn {β : Type} [Bucket β] {add : β → Int → β} {tally : β → Tally}
    (hexact : Exact kind add tally) (wf : c.WellFormed kind) {i : Nat}
    (hcount : (c.amountsIn length i).length < 2 ^ 32) :
    tally (c.bucketIn add length i) = c.tallyIn length i :=
  hexact _ (fun _ ha => admits_of_mem_amountsIn wf ha) hcount

/-- Every point lies in an interval that has ended or in the open one. -/
theorem passed_lt_closedCount_add_one (wf : c.WellFormed kind) {p : Instant × Int}
    (hp : p ∈ c.points) :
    IntervalClock.passed length (c.startedAt.getD 0) p.1 < c.closedCount length + 1 := by
  have hlatest := IntervalClock.passed_mono length (c.startedAt.getD 0) (wf.le_latest p hp)
  cases hstart : c.startedAt with
  | none =>
    rw [(wf.unstarted hstart).1] at hp
    cases hp
  | some start =>
    rw [hstart] at hlatest
    apply Nat.lt_succ_of_le
    cases hstop : c.stoppedAt with
    | none =>
      rw [closedCount_of_open length hstart hstop]
      exact hlatest
    | some stop =>
      have hstopped := IntervalClock.passed_mono length start (wf.latest_le stop hstop)
      simp only [closedCount, hstart, hstop]
      exact Nat.le_succ_of_le (Nat.le_trans hlatest hstopped)

end Chronicle

namespace Collector.Follows

variable {β : Type} [Bucket β] {kind : TrackerKind} {add : β → Int → β} {tally : β → Tally}
  {length : Span} {c : Chronicle} {t : Collector β}

/-- The intervals of a collector hold the points of the chronicle's. -/
theorem tallies (h : t.Follows add length c) (hexact : Exact kind add tally)
    (wf : c.WellFormed kind) (hcount : ∀ i, (c.amountsIn length i).length < 2 ^ 32) :
    t.closed.map tally = (List.range (c.closedCount length)).map (c.tallyIn length) ∧
      tally t.current = c.tallyIn length (c.closedCount length) := by
  have hbuckets := h.buckets
  rw [List.range_succ, List.map_append, List.map_singleton] at hbuckets
  obtain ⟨hclosed, hcurrent⟩ := Collector.buckets_eq_append hbuckets
  constructor
  · -- Buckets hold the points of their intervals, and tallies are exact
    rw [hclosed, List.map_map]
    exact List.map_congr_left fun i _ => Chronicle.tally_bucketIn hexact wf (hcount i)
  · rw [hcurrent]
    exact Chronicle.tally_bucketIn hexact wf (hcount _)

/-- No point is missing from the buckets, and none is in two of them. -/
theorem sum_count (h : t.Follows add length c) (hexact : Exact kind add tally)
    (wf : c.WellFormed kind) (hcount : ∀ i, (c.amountsIn length i).length < 2 ^ 32) :
    (t.buckets.map fun b => (tally b).count).sum = c.points.length := by
  have hbuckets : (t.buckets.map fun b => (tally b).count) =
      (List.range (c.closedCount length + 1)).map fun i => (c.amountsIn length i).length := by
    rw [h.buckets, List.map_map]
    apply List.map_congr_left
    intro i hi
    exact congrArg Tally.count (Chronicle.tally_bucketIn hexact wf (hcount i))
  rw [hbuckets]
  exact Chronicle.sum_length_amountsIn h.length_pos fun p hp =>
    Chronicle.passed_lt_closedCount_add_one wf hp

end Collector.Follows

/-! ## Section 4: Statistics -/

namespace Statistics

variable {length : Span} {c : Chronicle} {s : Statistics}

theorem Follows.tallies (h : s.Follows length c) (wf : c.WellFormed s.kind)
    (hkind : s.kind ≠ .categorical) (hcount : ∀ i, (c.amountsIn length i).length < 2 ^ 32) :
    s.closedTallies = (List.range (c.closedCount length)).map (c.tallyIn length) ∧
      s.openTally? = some (c.tallyIn length (c.closedCount length)) := by
  cases s with
  | incremental t =>
    obtain ⟨hclosed, hopen⟩ := Collector.Follows.tallies h Occurrences.exact wf hcount
    exact ⟨hclosed, congrArg some hopen⟩
  | time t =>
    obtain ⟨hclosed, hopen⟩ := h.1.tallies Timings.exact wf hcount
    exact ⟨hclosed, congrArg some hopen⟩
  | integerValue t =>
    obtain ⟨hclosed, hopen⟩ := Collector.Follows.tallies h Samples.exact wf hcount
    exact ⟨hclosed, congrArg some hopen⟩
  | categorical t => exact absurd rfl hkind

/-- All points are counted once, by interval or by category. -/
theorem Follows.totalCount_eq (h : s.Follows length c) (wf : c.WellFormed s.kind)
    (hcount : ∀ i, (c.amountsIn length i).length < 2 ^ 32) : s.totalCount = c.points.length := by
  cases s with
  | incremental t => exact Collector.Follows.sum_count h Occurrences.exact wf hcount
  | time t => exact h.1.sum_count Timings.exact wf hcount
  | integerValue t => exact Collector.Follows.sum_count h Samples.exact wf hcount
  | categorical t => exact CategoricalTracker.Follows.total h

/-! ## Section 5: Any sequence of events -/

/-- **Intervals are exact.** Whatever happens to statistics that are kept by interval, and in
whatever order of times: each interval that has ended holds number and sum of the points accepted
in it, and so does the open one; no point is lost or counted twice; a stop leaves as many closed
intervals as it takes to reach it, and nothing in the open one. What comes before the start or
after the stop changes nothing, nor does another start or stop. -/
theorem intervals_exact {kind : TrackerKind} (hkind : kind ≠ .categorical) (name : String)
    (context : CollectionContext) (events : List TrackerEvent)
    (hcount : ∀ i,
      ((Chronicle.ofEvents kind events).amountsIn context.interval i).length < 2 ^ 32) :
    let c := Chronicle.ofEvents kind events
    let s := (ofContext kind name context).after events
    s.closedTallies =
        (List.range (c.closedCount context.interval)).map (c.tallyIn context.interval) ∧
      s.openTally? = some (c.tallyIn context.interval (c.closedCount context.interval)) ∧
      s.totalCount = c.points.length ∧
      (∀ start stop, c.startedAt = some start → c.stoppedAt = some stop →
        s.closedTallies.length = (stop - start) / context.interval + 1 ∧
          s.openTally? = some ⟨0, 0⟩) ∧
      (c.isOpen = false → ∀ o now, s.observe o now = (s, [])) ∧
      (c.startedAt.isSome = true → ∀ now, s.start now = s) ∧
      (c.isOpen = false → ∀ now, s.stop now = (s, [])) := by
  intro c s
  have wf : c.WellFormed kind := Chronicle.wellFormed_ofEvents kind events
  have hskind : s.kind = kind := by rw [kind_after, kind_ofContext]
  have hfollows : s.Follows context.interval c := follows_after kind name context events
  have hidle (hclosed : c.isOpen = false) : s.isRunning = false :=
    hfollows.isRunning_eq.trans hclosed
  -- The kind does not change along the events
  rw [← hskind] at wf
  obtain ⟨hclosed, hopen⟩ := hfollows.tallies wf (by rw [hskind]; exact hkind) hcount
  refine ⟨hclosed, hopen, hfollows.totalCount_eq wf hcount, ?_, ?_, ?_, ?_⟩
  · intro start stop hstart hstop
    have hended : c.closedCount context.interval = (stop - start) / context.interval + 1 := by
      simp only [Chronicle.closedCount, hstart, hstop]
    constructor
    · rw [hclosed, List.length_map, List.length_range, hended]
    · -- No point comes after the stop
      have hpassed := IntervalClock.passed_mono context.interval start (wf.latest_le stop hstop)
      have hnil : c.amountsIn context.interval (c.closedCount context.interval) = [] := by
        apply Chronicle.amountsIn_eq_nil wf (CollectionContext.interval_pos context)
        rw [hended, hstart]
        exact Nat.lt_succ_of_le hpassed
      rw [hopen, Chronicle.tallyIn, hnil]
      rfl
  · intro hclosed o now
    exact observe_of_not_running now (hidle hclosed)
      (hfollows.timer_eq_none (wf.timer_of_closed hclosed)) o
  · intro hstarted now
    apply start_of_started
    rw [hfollows.phase_eq, Ne, Chronicle.phase_eq_notStarted_iff]
    exact Option.isSome_iff_ne_none.mp hstarted
  · intro hclosed now
    exact stop_of_not_running now (hidle hclosed)

/-- Samples in intervals of one second: the last one comes out of order and counts at the time of
the one before it. -/
theorem samples_by_second :
    let events := [TrackerEvent.observe (.sample 3) 0, .start 1000000000,
      .observe (.sample 5) 1500000000, .start 1600000000, .observe (.sample 7) 3100000000,
      .observe (.sample (-1)) 1200000000, .stop 5000000000, .observe (.sample 9) 5000000000]
    let s := (ofContext .integerValue "samples" ⟨"client-0", "thread-0", 1⟩).after events
    (∀ i, ((Chronicle.ofEvents .integerValue events).amountsIn 1000000000 i).length < 2 ^ 32) ∧
      s.closedTallies = [⟨1, 5⟩, ⟨0, 0⟩, ⟨2, 6⟩, ⟨0, 0⟩, ⟨0, 0⟩] ∧ s.totalCount = 3 := by
  intro events s
  have hcount : ∀ i,
      ((Chronicle.ofEvents .integerValue events).amountsIn 1000000000 i).length < 2 ^ 32 :=
    fun i => Nat.lt_of_le_of_lt (Chronicle.length_amountsIn_le _ _ i) (by decide)
  obtain ⟨hclosed, -, htotal, -⟩ :=
    intervals_exact (by decide) "samples" ⟨"client-0", "thread-0", 1⟩ events hcount
  exact ⟨hcount, hclosed.trans (by decide), htotal⟩

end Statistics

end JobScript
