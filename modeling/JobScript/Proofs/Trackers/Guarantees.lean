import JobScript.Proofs.Statistics.InOrder
import JobScript.Proofs.Statistics.Tally
import JobScript.Proofs.Trackers.Timeline

/-!
# What Scripts Can Rely On

However a script passes its trackers around, none of them escapes the end of the run, and every
data point that is sent to a set of statistics before it first stops is counted once.

## Architecture

- `Run.no_tracker_escapes`: all statistics are live, and all are stopped at the end
- `Run.pairwise_pointTimes_timeline`: statistics are told of points in order of time
- `Run.exists_start_of_created`: statistics are created by a first start
- `Run.every_point_counts_once`: statistics count the points of their timeline
-/

namespace JobScript.Run

/-! ## Section 1: Live until the end -/

/-- **No tracker escapes.** Statistics that some variable feeds at some moment are live ever after,
each once, whatever becomes of the variable; all statistics of the run are. A variable feeds
statistics that were started, and collects as long as they run. When the run is finished, all
statistics have stopped, and no variable collects. -/
theorem no_tracker_escapes (job : Job) (network : Pop.Network) (before after : List Step) :
    let earlier := (initial job network).performAll before
    let run := earlier.performAll after
    (∀ id, earlier.Feeds id → id ∈ run.liveTrackers) ∧
      run.liveTrackers.Nodup ∧
      (∀ id, id ∈ run.liveTrackers ↔ id < run.world.statistics.length) ∧
      (∀ name h id, run.handle? name = some h → h.statistics = some id →
        ∃ s, run.world.statistics[id]? = some s ∧ s.core.phase ≠ .notStarted ∧
          (s.isRunning = true → h.collecting = true)) ∧
      run.finish.world.statistics.length = run.world.statistics.length ∧
      (∀ s ∈ run.finish.world.statistics, s.isStopped = true) ∧
      ∀ name h, run.finish.handle? name = some h → h.collecting = false := by
  intro earlier run
  have hearlier : earlier.Consistent := (consistent_initial job network).performAll before
  have h : run.Consistent := hearlier.performAll after
  -- Closing the connections comes last and has nothing to do with statistics
  have hfinish : run.finish.world.statistics = run.stopTrackers.world.statistics :=
    (keepsTrackers_releaseSessions run.stopTrackers).world.statistics
  refine ⟨?_, run.nodup_liveTrackers, fun id => h.mem_liveTrackers_iff, ?_, ?_, ?_, ?_⟩
  · intro id hfeeds
    rw [h.mem_liveTrackers_iff]
    exact Nat.lt_of_lt_of_le (hearlier.lt_of_feeds hfeeds)
      (length_statistics_le_performAll hearlier after)
  · intro name handle id hhandle hid
    obtain ⟨s, hs, -, hcollecting⟩ := h.held name handle id hhandle hid
    exact ⟨s, hs, h.started id s hs, hcollecting⟩
  · rw [hfinish, h.statistics_stopTrackers, List.length_map]
  · intro s hs
    rw [hfinish] at hs
    obtain ⟨id, hid⟩ := List.mem_iff_getElem?.mp hs
    exact h.isStopped_of_stopTrackers hid
  · intro name handle hhandle
    rw [finish, handle?_releaseSessions, handle?_stopTrackers] at hhandle
    obtain ⟨before, -, rfl⟩ := Option.map_eq_some_iff.mp hhandle
    rfl

/-! ## Section 2: Time along a run -/

variable {run : Run} {id : TrackerId}

theorem pointTimes_told_append (run : Run) (id : TrackerId) (step : Step)
    (events : List TrackerEvent) :
    pointTimes (run.told id step ++ events) = [] ∨
      pointTimes (run.told id step ++ events) = pointTimes events ∨
      pointTimes (run.told id step ++ events) = run.world.now :: pointTimes events := by
  rcases told_eq run id step with hnil | ⟨event, hevent, hnow⟩
  · rw [hnil]
    exact .inr (.inl rfl)
  · rw [hevent]
    cases event with
    -- A stop ends the points, however many events follow
    | stop now => exact .inl rfl
    | observe o now =>
      obtain rfl := hnow o now rfl
      exact .inr (.inr rfl)
    | start now => exact .inr (.inl rfl)
    | rename name => exact .inr (.inl rfl)
    | listen job => exact .inr (.inl rfl)

/-- Nothing in the timeline of a run lies before the run. -/
theorem now_le_of_mem_pointTimes {steps : List Step} {t : Instant}
    (ht : t ∈ pointTimes (run.timeline id steps)) : run.world.now ≤ t := by
  induction steps generalizing run with
  | nil => cases ht
  | cons step steps ih =>
    have hnow := (job_now_perform run step).2
    rcases pointTimes_told_append run id step ((run.perform step).1.timeline id steps) with
      heq | heq | heq
    · rw [timeline, heq] at ht
      cases ht
    · rw [timeline, heq] at ht
      exact Nat.le_trans hnow (ih ht)
    · rw [timeline, heq] at ht
      rcases List.mem_cons.mp ht with rfl | ht
      · exact Nat.le_refl _
      · exact Nat.le_trans hnow (ih ht)

theorem pairwise_pointTimes_timeline (run : Run) (id : TrackerId) (steps : List Step) :
    (pointTimes (run.timeline id steps)).Pairwise (· ≤ ·) := by
  induction steps generalizing run with
  | nil => exact List.Pairwise.nil
  | cons step steps ih =>
    rcases pointTimes_told_append run id step ((run.perform step).1.timeline id steps) with
      heq | heq | heq
    · rw [timeline, heq]
      exact List.Pairwise.nil
    · rw [timeline, heq]
      exact ih _
    · rw [timeline, heq, List.pairwise_cons]
      refine ⟨?_, ih _⟩
      intro t ht
      exact Nat.le_trans (job_now_perform run step).2 (now_le_of_mem_pointTimes ht)

/-! ## Section 3: Every point counts once -/

/-- Statistics come into being through the first start of a tracker, and run from then on. -/
theorem exists_start_of_created (h : run.Consistent) {step : Step}
    (hcreated : run.world.statistics.length < (run.perform step).1.world.statistics.length) :
    ∃ handle : TrackerHandle,
      (run.perform step).1.world.statistics[run.world.statistics.length]? =
        some ((handle.newStatistics run.job).start run.world.now) := by
  rcases perform_cases h step with
    ⟨name, handle, request, hrequested, hhandle, heq⟩ | ⟨rfl, heq⟩ | ⟨hrequested, hstop, heq⟩
  · rw [heq] at hcreated ⊢
    cases hid : handle.statistics with
    | some id =>
      obtain ⟨s, hs⟩ := h.exists_fed hhandle id hid
      obtain ⟨-, points, hworld⟩ := request.perform_of_some run.job hid hs
      -- A handle with statistics creates none
      rw [hworld, List.length_set] at hcreated
      exact absurd hcreated (Nat.lt_irrefl _)
    | none =>
      by_cases hstart : request = .start
      · subst hstart
        refine ⟨handle, ?_⟩
        rw [TrackerRequest.perform, TrackerHandle.start_of_none run.job hid]
        simp
      · rw [(TrackerRequest.perform_of_none run.job hid hstart).2] at hcreated
        exact absurd hcreated (Nat.lt_irrefl _)
  · rw [heq, List.length_map] at hcreated
    exact absurd hcreated (Nat.lt_irrefl _)
  · rw [heq] at hcreated
    exact absurd hcreated (Nat.lt_irrefl _)

/-- New statistics account for an empty chronicle. -/
theorem follows_newStatistics (handle : TrackerHandle) (job : Job) :
    (handle.newStatistics job).Follows job.collectionContext.interval {} := by
  have hnew := Statistics.follows_after handle.kind
    (handle.displayName.getD TrackerHandle.unnamed) job.collectionContext []
  unfold TrackerHandle.newStatistics
  dsimp only
  split
  · exact hnew.mapCore (fun _ => rfl) fun _ => rfl
  · exact hnew

/-- What statistics count in the end, given that they were created running: the points of their
timeline, by the chronicle of the same events. -/
theorem totalCount_after_timeline (h : run.Consistent) {s : Statistics} {start : Instant}
    {length : Span} (hs : run.world.statistics[id]? = some s) (hkind : s.kind ≠ .time)
    (hfollows : s.Follows length (({} : Chronicle).start start)) (hstart : start ≤ run.world.now)
    (steps : List Step)
    (hcount : ∀ i, ((pointTimes (run.timeline id steps)).filter fun t =>
      decide (i * length ≤ t - start ∧ t - start < (i + 1) * length)).length < 2 ^ 32) :
    (s.after (run.timeline id steps)).totalCount =
      (pointTimes (run.timeline id steps)).length := by
  have wf : (({} : Chronicle).start start).WellFormed s.kind :=
    Chronicle.wellFormed_start (Chronicle.wellFormed_ofEvents s.kind []) start
  have hsorted : (start :: pointTimes (run.timeline id steps)).Pairwise (· ≤ ·) := by
    rw [List.pairwise_cons]
    refine ⟨?_, pairwise_pointTimes_timeline run id steps⟩
    intro t ht
    exact Nat.le_trans hstart (now_le_of_mem_pointTimes ht)
  -- The chronicle of the timeline has one point for every call, at the time of the call
  obtain ⟨hstarted, htimes⟩ :=
    Chronicle.foldl_of_open (c := ({} : Chronicle).start start) rfl
      (fun _ _ hmem => isSome_amount?_of_timeline h hs hkind hmem) hsorted
  have hafter := Statistics.follows_foldl rfl hfollows wf (run.timeline id steps)
  have wf' : ((run.timeline id steps).foldl (fun c event => c.take s.kind event)
      (({} : Chronicle).start start)).WellFormed s.kind :=
    List.foldlRecOn _ _ wf fun c hc event _ => Chronicle.wellFormed_take hc event
  have htotal := hafter.totalCount_eq (by rw [Statistics.kind_after]; exact wf') ?_
  · rw [htotal, ← List.length_map Prod.fst, htimes]
    rfl
  · intro i
    rw [Chronicle.length_amountsIn hstarted, htimes]
    exact hcount i

/-- **Every point counts once.** Take the step of a run that creates statistics which are not of
times, and any steps after it. In the end the statistics count as many points as data-point calls
were made on variables that fed the statistics at that moment, before the first stop that reached
them; given that no interval has too many points for its counter. -/
theorem every_point_counts_once (job : Job) (network : Pop.Network) (before later : List Step)
    (creating : Step) :
    let run := (initial job network).performAll before
    let id := run.world.statistics.length
    let created := (run.perform creating).1
    let points := pointTimes (created.timeline id later)
    let length := job.collectionContext.interval
    id < created.world.statistics.length →
    (∀ i, (points.filter fun t => decide (i * length ≤ t - run.world.now ∧
      t - run.world.now < (i + 1) * length)).length < 2 ^ 32) →
    ∃ s, (created.performAll later).world.statistics[id]? = some s ∧
      (s.kind ≠ .time → s.totalCount = points.length) := by
  intro run id created points length hcreated hcount
  have h : run.Consistent := (consistent_initial job network).performAll before
  have hafter : created.Consistent := h.perform creating
  -- The job, and with it the interval, is the same all along
  have hjob : run.job = job := job_performAll (initial job network) before
  obtain ⟨handle, hs⟩ := exists_start_of_created h hcreated
  rw [hjob] at hs
  obtain ⟨s, hs', hkind, htimeline⟩ := getElem?_performAll hafter hs later
  refine ⟨s, hs', ?_⟩
  intro htime
  rw [hkind] at htime
  have hfollows : ((handle.newStatistics job).start run.world.now).Follows length
      (({} : Chronicle).start run.world.now) :=
    (follows_newStatistics handle job).start (Chronicle.wellFormed_ofEvents _ []) run.world.now
  rw [htimeline htime]
  exact totalCount_after_timeline hafter hs htime hfollows (job_now_perform run creating).2 later
    hcount

/-- Two variables come to share statistics: a point counts through either of them, and none counts
after one of them was stopped, though the other still collects. -/
theorem shared_statistics_count_both :
    let before := [Step.declare ⟨0⟩ "a" "incrementaltracker",
      .declare ⟨1⟩ "b" "incrementaltracker"]
    let later := [Step.assign ⟨3⟩ "b" (.variable "a"), .invoke ⟨4⟩ "b" 0 [], .wait Span.second,
      .invoke ⟨5⟩ "a" 0 [], .invoke ⟨6⟩ "a" 3 [], .invoke ⟨7⟩ "b" 0 []]
    let run := (initial {} {}).performAll before
    let created := (run.perform (.invoke ⟨2⟩ "a" 2 [])).1
    let points := pointTimes (created.timeline run.world.statistics.length later)
    let length := ({} : Job).collectionContext.interval
    run.world.statistics.length < created.world.statistics.length ∧
      (∀ i, (points.filter fun t => decide (i * length ≤ t - run.world.now ∧
        t - run.world.now < (i + 1) * length)).length < 2 ^ 32) ∧
      points.length = 2 ∧
      ∃ s, (created.performAll later).world.statistics[run.world.statistics.length]? = some s ∧
        s.kind = .incremental ∧ s.totalCount = 2 := by
  have hcounts := every_point_counts_once {} {}
    [.declare ⟨0⟩ "a" "incrementaltracker", .declare ⟨1⟩ "b" "incrementaltracker"]
    [.assign ⟨3⟩ "b" (.variable "a"), .invoke ⟨4⟩ "b" 0 [], .wait Span.second,
      .invoke ⟨5⟩ "a" 0 [], .invoke ⟨6⟩ "a" 3 [], .invoke ⟨7⟩ "b" 0 []] (.invoke ⟨2⟩ "a" 2 [])
  dsimp only at hcounts ⊢
  have hfew (points : List Instant) (p : Instant → Bool) (htwo : points.length = 2) :
      (points.filter p).length < 2 ^ 32 := by
    have hle := List.length_filter_le p points
    omega
  refine ⟨?created, ?few, ?two, ?count⟩
  case created => decide
  case few => exact fun i => hfew _ _ rfl
  case two => rfl
  case count =>
    obtain ⟨s, hs, htotal⟩ := hcounts (by decide) fun i => hfew _ _ rfl
    have hkind : s.kind = .incremental :=
      Option.some.inj ((congrArg (Option.map Statistics.kind) hs).symm.trans (by decide))
    have htime : s.kind ≠ .time := by
      rw [hkind]
      decide
    exact ⟨s, hs, hkind, htotal htime⟩

end JobScript.Run
