import JobScript.Proofs.Statistics.Partition
import JobScript.Proofs.Statistics.Tally
import Mathlib.Algebra.Order.BigOperators.Group.List
import Mathlib.Algebra.Order.Field.Rat
import Mathlib.Tactic.NormNum

/-!
# Averages and Extremes

An average is a sum over a number, and both have to be of the same points. The count per interval
takes the points of the open interval into its sum, but only closed intervals into their number, so
it can exceed every interval. The average of samples takes all points into both, and stays exact as
long as there are no more of them than one interval could hold.

## Architecture

- `IncrementalTracker.averageRatio`: the exact quotient, compared with the closed intervals
- `average_against_extremes`: when it lies between the least and the greatest one
- `Samples.foldl_merge`: intervals merged one after the other
- `average_describes_samples`: number and sum behind the average of samples
-/

namespace JobScript

/-! ## Section 1: Counts per interval -/

namespace IncrementalTracker

variable {t : IncrementalTracker} {least greatest : Nat}

/-- The quotient that the average per interval rounds. -/
def averageRatio (t : IncrementalTracker) : ℚ :=
  t.totalCount / t.closed.length

theorem totalCount_eq (t : IncrementalTracker) :
    t.totalCount = t.intervalCounts.sum + t.current.count := by
  change ((t.closed ++ [t.current]).map Occurrences.count).sum = _
  simp [intervalCounts]

theorem length_intervalCounts (t : IncrementalTracker) :
    t.intervalCounts.length = t.closed.length :=
  List.length_map _

/-- What intervals lack of a bound, and what they hold, make up the bound as often as there are
intervals. -/
theorem sum_lack_add_sum {counts : List Nat} (h : ∀ count ∈ counts, count ≤ greatest) :
    (counts.map (greatest - ·)).sum + counts.sum = counts.length * greatest := by
  induction counts with
  | nil => simp
  | cons count counts ih =>
    obtain ⟨hcount, hrest⟩ := List.forall_mem_cons.mp h
    have := ih hrest
    rw [List.map_cons, List.sum_cons, List.sum_cons, List.length_cons, Nat.succ_mul]
    omega

theorem exists_extremes (h : t.closed ≠ []) :
    ∃ least greatest, t.minPerInterval? = some least ∧ t.maxPerInterval? = some greatest := by
  have hcounts : t.intervalCounts ≠ [] := by simpa [intervalCounts] using h
  obtain ⟨least, hleast⟩ := Option.isSome_iff_exists.mp (List.isSome_min?_of_ne_nil hcounts)
  obtain ⟨greatest, hgreatest⟩ := Option.isSome_iff_exists.mp (List.isSome_max?_of_ne_nil hcounts)
  exact ⟨least, greatest, hleast, hgreatest⟩

/-- No interval has fewer points than the least one, and the open one only adds to the sum. -/
theorem le_averageRatio (h : t.closed ≠ []) (hleast : t.minPerInterval? = some least) :
    (least : ℚ) ≤ t.averageRatio := by
  have hpos : (0 : ℚ) < t.closed.length := by
    exact_mod_cast List.length_pos_iff.mpr h
  have hsum := List.card_nsmul_le_sum t.intervalCounts least (List.min?_eq_some_iff.mp hleast).2
  rw [length_intervalCounts, nsmul_eq_mul, Nat.cast_id] at hsum
  have htotal : least * t.closed.length ≤ t.totalCount := by
    rw [totalCount_eq, Nat.mul_comm]
    omega
  rw [averageRatio, le_div_iff₀ hpos]
  exact_mod_cast htotal

/-- The average exceeds the greatest interval when the open one has more points than all closed
ones lack of that. -/
theorem averageRatio_le_iff (h : t.closed ≠ []) (hgreatest : t.maxPerInterval? = some greatest) :
    t.averageRatio ≤ greatest ↔
      t.current.count ≤ (t.intervalCounts.map (greatest - ·)).sum := by
  have hpos : (0 : ℚ) < t.closed.length := by
    exact_mod_cast List.length_pos_iff.mpr h
  have hlack := sum_lack_add_sum (List.max?_eq_some_iff.mp hgreatest).2
  rw [length_intervalCounts, Nat.mul_comm] at hlack
  have htotal : t.averageRatio ≤ greatest ↔ t.totalCount ≤ greatest * t.closed.length := by
    rw [averageRatio, div_le_iff₀ hpos]
    exact_mod_cast Iff.rfl
  rw [htotal, totalCount_eq]
  omega

end IncrementalTracker

/-- After the stop, no point waits for its interval to be closed. -/
theorem Collector.Follows.current_of_stopped {β : Type} [Bucket β] {kind : TrackerKind}
    {add : β → Int → β} {length : Span} {c : Chronicle} {t : Collector β}
    (h : t.Follows add length c) (wf : c.WellFormed kind) (hstopped : t.core.isStopped = true) :
    t.current = Bucket.empty := by
  rw [TrackerCore.isStopped_iff, h.phase, Chronicle.phase_eq_stopped_iff] at hstopped
  obtain ⟨start, stop, hstart, hstop⟩ := hstopped
  have hbuckets := h.buckets
  rw [List.range_succ, List.map_append, List.map_singleton] at hbuckets
  rw [(Collector.buckets_eq_append hbuckets).2]
  apply Chronicle.bucketIn_eq_empty wf h.length_pos
  have hpassed := IntervalClock.passed_mono length start (wf.latest_le stop hstop)
  simp only [Chronicle.closedCount, hstart, hstop, Option.getD_some]
  exact Nat.lt_succ_of_le hpassed

namespace Statistics

/-- **The average per interval against the extremes.** Once an interval is closed, the quotient that
the average rounds is not below the least interval. It is not above the greatest one exactly if the
points of the open interval fit into what the closed ones lack of the greatest, so always after the
stop. -/
theorem average_against_extremes (name : String) (context : CollectionContext)
    (events : List TrackerEvent) :
    ∃ t : IncrementalTracker,
      (ofContext .incremental name context).after events = .incremental t ∧
      (t.closed ≠ [] → ∃ least greatest,
        t.minPerInterval? = some least ∧ t.maxPerInterval? = some greatest ∧
        t.averagePerInterval =
          t.totalCount.toUInt64.toFloat / t.closed.length.toUInt64.toFloat ∧
        (least : ℚ) ≤ t.averageRatio ∧
        (t.averageRatio ≤ greatest ↔
          t.current.count ≤ (t.intervalCounts.map (greatest - ·)).sum) ∧
        (t.core.isStopped = true → t.averageRatio ≤ greatest)) := by
  obtain ⟨t, hafter, hfollows⟩ := exists_incremental_after name context events
  refine ⟨t, hafter, ?_⟩
  intro hclosed
  obtain ⟨least, greatest, hleast, hgreatest⟩ := IncrementalTracker.exists_extremes hclosed
  have hiff := IncrementalTracker.averageRatio_le_iff hclosed hgreatest
  refine ⟨least, greatest, hleast, hgreatest, ?_,
    IncrementalTracker.le_averageRatio hclosed hleast, hiff, ?_⟩
  · rw [IncrementalTracker.averagePerInterval, if_neg (by simpa using hclosed)]
  · intro hstopped
    have hempty : t.current = Bucket.empty :=
      Collector.Follows.current_of_stopped hfollows
        (Chronicle.wellFormed_ofEvents .incremental events) hstopped
    rw [hiff, hempty]
    exact Nat.zero_le _

/-- One occurrence in the first second and one in the next, which is still open: on average there
are two in the one interval that is closed, and it has one. -/
theorem average_exceeds_greatest :
    ¬ ∀ (name : String) (context : CollectionContext) (events : List TrackerEvent)
        (t : IncrementalTracker),
      (ofContext .incremental name context).after events = .incremental t →
        ∀ least greatest, t.minPerInterval? = some least → t.maxPerInterval? = some greatest →
          (least : ℚ) ≤ t.averageRatio ∧ t.averageRatio ≤ greatest := by
  intro h
  let events := [TrackerEvent.start 0, .observe .occurrence 500000000,
    .observe .occurrence 1500000000]
  obtain ⟨t, hafter, hfollows⟩ :=
    exists_incremental_after "requests" ⟨"client-0", "thread-0", 1⟩ events
  have hbuckets : t.buckets = [⟨1⟩] ++ [⟨1⟩] := hfollows.buckets.trans (by decide)
  obtain ⟨hclosed, hcurrent⟩ := Collector.buckets_eq_append hbuckets
  have hcounts : t.intervalCounts = [1] := by
    rw [IncrementalTracker.intervalCounts, hclosed]
    rfl
  have hratio : t.averageRatio = 2 := by
    rw [IncrementalTracker.averageRatio, IncrementalTracker.totalCount_eq, hcounts, hclosed,
      hcurrent]
    norm_num
  have hleast : t.minPerInterval? = some 1 := by
    rw [IncrementalTracker.minPerInterval?, hcounts]
    rfl
  have hgreatest : t.maxPerInterval? = some 1 := by
    rw [IncrementalTracker.maxPerInterval?, hcounts]
    rfl
  have hbetween := (h _ _ events t hafter 1 1 hleast hgreatest).2
  rw [hratio] at hbetween
  norm_num at hbetween

end Statistics

/-! ## Section 2: Samples -/

namespace Samples

/-- A sum that 64 bits hold. -/
def Fits (sum : Int) : Prop :=
  -2 ^ 63 ≤ sum ∧ sum < 2 ^ 63

theorem clampSum_of_fits {sum : Int} (h : Fits sum) : clampSum sum = sum := by
  obtain ⟨hlower, hupper⟩ := h
  unfold clampSum
  omega

/-- Number and sum of samples that fit. -/
def ofAmounts (amounts : List Int) : Samples :=
  ⟨amounts.length, amounts.sum⟩

/-- Intervals that are merged one after the other have the number of their samples, up to the
greatest count, and the sum of them, if no sum on the way is too great. -/
theorem foldl_merge (parts : List (List Int)) (count : Nat) (sum : Int)
    (hfits : ∀ n, Fits (sum + (parts.flatten.take n).sum)) :
    (parts.map ofAmounts).foldl merge ⟨min count greatestCount, sum⟩ =
      ⟨min (count + parts.flatten.length) greatestCount, sum + parts.flatten.sum⟩ := by
  induction parts generalizing count sum with
  | nil => simp
  | cons part parts ih =>
    rw [List.flatten_cons] at hfits ⊢
    have hpart : Fits (sum + part.sum) := by simpa using hfits part.length
    have hrest (n : Nat) : Fits (sum + part.sum + (parts.flatten.take n).sum) := by
      have hn := hfits (part.length + n)
      rwa [List.take_length_add_append, List.sum_append, ← Int.add_assoc] at hn
    have hmerge : merge ⟨min count greatestCount, sum⟩ (ofAmounts part) =
        ⟨min (count + part.length) greatestCount, sum + part.sum⟩ := by
      simp only [merge, ofAmounts, clampSum_of_fits hpart, mk.injEq, and_true]
      omega
    rw [List.map_cons, List.foldl_cons, hmerge, ih _ _ hrest, List.length_append, List.sum_append]
    simp only [mk.injEq]
    omega

/-- The bucket of an interval that is not too full. -/
theorem bucketIn_eq {c : Chronicle} {length : Span} {i : Nat}
    (wf : c.WellFormed .integerValue) (hcount : (c.amountsIn length i).length < 2 ^ 32) :
    c.bucketIn addPoint length i = ofAmounts (c.amountsIn length i) := by
  have htally := Chronicle.tally_bucketIn exact wf hcount
  generalize c.bucketIn addPoint length i = bucket at htally
  obtain ⟨count, sum⟩ := bucket
  obtain ⟨hnumber, hsum⟩ := Tally.mk.inj htally
  exact mk.injEq _ _ _ _ ▸ ⟨hnumber, hsum⟩

end Samples

theorem IntegerValueTracker.totalCount_of_follows {c : Chronicle} {length : Span}
    {t : IntegerValueTracker} (h : t.intervals.Follows Samples.addPoint length c)
    (wf : c.WellFormed .integerValue) (hcount : ∀ i, (c.amountsIn length i).length < 2 ^ 32) :
    t.totalCount = c.amounts.length := by
  rw [Chronicle.amounts, List.length_map]
  exact h.sum_count Samples.exact wf hcount

/-- What the average of samples divides, if no interval is too full and no sum too great. -/
theorem IntegerValueTracker.overall_of_follows {c : Chronicle} {length : Span}
    {t : IntegerValueTracker} (h : t.intervals.Follows Samples.addPoint length c)
    (wf : c.WellFormed .integerValue) (hordered : c.Ordered)
    (hcount : ∀ i, (c.amountsIn length i).length < 2 ^ 32)
    (hfits : ∀ n, Samples.Fits (c.amounts.take n).sum) :
    t.overall = ⟨min c.amounts.length Samples.greatestCount, c.amounts.sum⟩ := by
  have hbuckets : t.intervals.buckets =
      ((List.range (c.closedCount length + 1)).map (c.amountsIn length)).map Samples.ofAmounts := by
    rw [h.buckets, List.map_map]
    exact List.map_congr_left fun i _ => Samples.bucketIn_eq wf (hcount i)
  -- The intervals in order are the samples in order
  have hall : ((List.range (c.closedCount length + 1)).map (c.amountsIn length)).flatten =
      c.amounts := by
    rw [← List.flatMap_def]
    exact Chronicle.flatMap_amountsIn hordered h.length_pos fun p hp =>
      Chronicle.passed_lt_closedCount_add_one wf hp
  have hmerge := Samples.foldl_merge
    ((List.range (c.closedCount length + 1)).map (c.amountsIn length)) 0 0
    (by simpa [hall] using hfits)
  rw [hall, Nat.zero_min, Nat.zero_add, Int.zero_add] at hmerge
  rw [overall, hbuckets]
  exact hmerge

namespace Statistics

/-- **What the average of samples is of.** As long as no interval has too many samples and no sum on
the way is too great, the average divides the sum of all samples that were accepted by their number,
up to the greatest count of one interval: that is the total count exactly if there are fewer than
2^32 of them. The extremes are the least and the greatest of these samples. -/
theorem average_describes_samples (name : String) (context : CollectionContext)
    (events : List TrackerEvent)
    (hcount : ∀ i,
      ((Chronicle.ofEvents .integerValue events).amountsIn context.interval i).length < 2 ^ 32)
    (hfits : ∀ n, Samples.Fits ((Chronicle.ofEvents .integerValue events).amounts.take n).sum) :
    let samples := (Chronicle.ofEvents .integerValue events).amounts
    ∃ t : IntegerValueTracker,
      (ofContext .integerValue name context).after events = .integerValue t ∧
      t.totalCount = samples.length ∧
      t.overall = ⟨min samples.length Samples.greatestCount, samples.sum⟩ ∧
      (t.overall = ⟨t.totalCount, samples.sum⟩ ↔ samples.length < 2 ^ 32) ∧
      t.least.map Int32.toInt = samples.min? ∧ t.greatest.map Int32.toInt = samples.max? := by
  intro samples
  have wf := Chronicle.wellFormed_ofEvents .integerValue events
  obtain ⟨t, hafter, hfollows, hextremes⟩ := exists_integerValue_after name context events
  have htotal : t.totalCount = samples.length :=
    IntegerValueTracker.totalCount_of_follows hfollows wf hcount
  have hoverall : t.overall = ⟨min samples.length Samples.greatestCount, samples.sum⟩ :=
    IntegerValueTracker.overall_of_follows hfollows wf
      (Chronicle.ordered_ofEvents .integerValue events) hcount hfits
  refine ⟨t, hafter, htotal, hoverall, ?_, hextremes.least, hextremes.greatest⟩
  rw [hoverall, htotal, Samples.mk.injEq, and_iff_left rfl, Samples.greatestCount]
  omega

/-- Two samples in the first second and one in the third. -/
theorem average_of_three_samples :
    let events := [TrackerEvent.start 0, .observe (.sample 5) 100000000,
      .observe (.sample (-2)) 900000000, .observe (.sample 9) 2500000000]
    (∀ i, ((Chronicle.ofEvents .integerValue events).amountsIn 1000000000 i).length < 2 ^ 32) ∧
      (∀ n, Samples.Fits ((Chronicle.ofEvents .integerValue events).amounts.take n).sum) ∧
      ∃ t : IntegerValueTracker,
        (ofContext .integerValue "sizes" ⟨"client-0", "thread-0", 1⟩).after events =
            .integerValue t ∧
          t.overall = ⟨3, 12⟩ ∧ t.totalCount = 3 ∧ t.least.map Int32.toInt = some (-2) := by
  intro events
  have hcount : ∀ i,
      ((Chronicle.ofEvents .integerValue events).amountsIn 1000000000 i).length < 2 ^ 32 :=
    fun i => Nat.lt_of_le_of_lt (Chronicle.length_amountsIn_le _ _ i) (by decide)
  have hamounts : (Chronicle.ofEvents .integerValue events).amounts = [5, -2, 9] := by decide
  have hfits : ∀ n,
      Samples.Fits ((Chronicle.ofEvents .integerValue events).amounts.take n).sum := by
    intro n
    rw [hamounts]
    match n with
    | 0 | 1 | 2 | n + 3 => simp [Samples.Fits]
  obtain ⟨t, hafter, htotal, hoverall, -, hleast, -⟩ :=
    average_describes_samples "sizes" ⟨"client-0", "thread-0", 1⟩ events hcount hfits
  rw [hamounts] at htotal hoverall hleast
  exact ⟨hcount, hfits, t, hafter, hoverall, htotal, hleast⟩

/-- Samples of one: a number of them in the first second, and one more in the second one. -/
def samplesOfOne (n : Nat) : List TrackerEvent :=
  .start 0 :: (List.replicate n (.observe (.sample 1) 0) ++ [.observe (.sample 1) 1000000000])

theorem ofEvents_samplesOfOne (n : Nat) :
    Chronicle.ofEvents .integerValue (samplesOfOne n) =
      { startedAt := some 0
        latest := 1000000000
        points := List.replicate n (0, 1) ++ [(1000000000, 1)] } := by
  have hmany (points : List (Instant × Int)) :
      (List.replicate n (TrackerEvent.observe (.sample 1) 0)).foldl
          (fun (c : Chronicle) event => c.take .integerValue event)
          { startedAt := some 0, points } =
        { startedAt := some 0, points := points ++ List.replicate n (0, 1) } := by
    induction n generalizing points with
    | zero => simp
    | succ n ih =>
      have hrest := ih (points ++ [(0, 1)])
      rw [List.append_assoc, List.singleton_append, ← List.replicate_succ] at hrest
      exact hrest
  rw [Chronicle.ofEvents, samplesOfOne, List.foldl_cons, List.foldl_append]
  change List.foldl _ ((List.replicate n (TrackerEvent.observe (.sample 1) 0)).foldl
    (fun (c : Chronicle) event => c.take .integerValue event)
    { startedAt := some 0, points := [] }) _ = _
  rw [hmany]
  rfl

theorem amounts_samplesOfOne (n : Nat) :
    (Chronicle.ofEvents .integerValue (samplesOfOne n)).amounts = List.replicate (n + 1) 1 := by
  rw [ofEvents_samplesOfOne, Chronicle.amounts, List.replicate_succ']
  simp

/-- The many lie in the first interval, and the last one does not. -/
theorem length_amountsIn_samplesOfOne {n : Nat} (hn : n < 2 ^ 32) (i : Nat) :
    ((Chronicle.ofEvents .integerValue (samplesOfOne n)).amountsIn 1000000000 i).length <
      2 ^ 32 := by
  rw [ofEvents_samplesOfOne, Chronicle.amountsIn_eq (by decide), List.length_map,
    List.filter_append, List.length_append, List.filter_replicate]
  have hfirst : IntervalClock.passed 1000000000 0 0 = 0 := by decide
  have hlast : IntervalClock.passed 1000000000 0 1000000000 = 1 := by decide
  simp only [Option.getD_some, hfirst, hlast, List.filter_singleton]
  by_cases hi : i = 0
  · subst hi
    simpa using hn
  · have hnot : ¬ 0 = i := fun h => hi h.symm
    simp only [hnot, decide_false, Bool.false_eq_true, if_false, List.length_nil]
    cases decide (1 = i) <;> decide

/-- When there are as many samples as one interval can hold, and one more in the next one, none of
the two saturates, but the average divides the sum of all by one less than their number. -/
theorem average_misses_sample :
    ¬ ∀ (name : String) (context : CollectionContext) (events : List TrackerEvent)
        (t : IntegerValueTracker),
      (∀ i, ((Chronicle.ofEvents .integerValue events).amountsIn context.interval i).length <
          2 ^ 32) →
        (∀ n, Samples.Fits ((Chronicle.ofEvents .integerValue events).amounts.take n).sum) →
          (ofContext .integerValue name context).after events = .integerValue t →
            t.overall = ⟨t.totalCount, (Chronicle.ofEvents .integerValue events).amounts.sum⟩ := by
  intro h
  -- The greatest count is kept behind a name, so that nothing is counted out
  obtain ⟨n, hn⟩ : ∃ n, n = 2 ^ 32 - 1 := ⟨_, rfl⟩
  have wf := Chronicle.wellFormed_ofEvents .integerValue (samplesOfOne n)
  have hamounts := amounts_samplesOfOne n
  have hcount := length_amountsIn_samplesOfOne (show n < 2 ^ 32 by omega)
  have hfits : ∀ k, Samples.Fits
      ((Chronicle.ofEvents .integerValue (samplesOfOne n)).amounts.take k).sum := by
    intro k
    rw [hamounts, List.take_replicate, List.sum_replicate_int, Int.mul_one]
    constructor <;> omega
  obtain ⟨t, hafter, hfollows, -⟩ :=
    exists_integerValue_after "sizes" ⟨"client-0", "thread-0", 1⟩ (samplesOfOne n)
  have htotal : t.totalCount = n + 1 :=
    (IntegerValueTracker.totalCount_of_follows hfollows wf hcount).trans
      ((congrArg List.length hamounts).trans List.length_replicate)
  have hoverall := IntegerValueTracker.overall_of_follows hfollows wf
    (Chronicle.ordered_ofEvents .integerValue _) hcount hfits
  have hclaim := h _ _ _ t hcount hfits hafter
  rw [hoverall, htotal, hamounts, List.length_replicate, Samples.mk.injEq,
    Samples.greatestCount] at hclaim
  omega

end Statistics

end JobScript
