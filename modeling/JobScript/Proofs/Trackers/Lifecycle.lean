import JobScript.Proofs.Statistics.Stream
import JobScript.Proofs.Trackers.Consistency

/-!
# Trackers Move Forward

The stage of a tracker is not stored: it is read off the chosen name, the handle and the statistics
that handles share. Along a run these fit together. A handle with statistics is collecting until
they stop, so a call can only move it on, whichever handle it goes through. A handle without
statistics is armed by a name and started by a start; only taking its name back returns it to where
it began.

## Architecture

- `World.Advances`: statistics persist, and stop for good
- `Run.stage?`: the stage of a tracker variable
- `Run.Consistent.stage_of_feeds`: in a consistent run, handles with statistics collect or are done
- `Run.TakesNameBack`: the one call that leads back
- `Run.stages_move_forward`: all calls, in every run from its beginning
-/

namespace JobScript

/-! ## Section 1: Statistics -/

/-- Statistics persist, and those that have stopped stay so. -/
def World.Advances (w w' : World) : Prop :=
  ∀ (id : TrackerId) (s : Statistics), w.statistics[id]? = some s →
    ∃ s' : Statistics, w'.statistics[id]? = some s' ∧ (s.isStopped = true → s'.isStopped = true)

namespace World

variable {w w' : World}

theorem Advances.of_eq (h : w'.statistics = w.statistics) : w.Advances w' := by
  intro id s hs
  exact ⟨s, h ▸ hs, fun hstopped => hstopped⟩

/-- Events never start statistics again. -/
theorem Advances.of_after {id : TrackerId} {s : Statistics} {events : List TrackerEvent}
    (hs : w.statistics[id]? = some s)
    (h : w'.statistics = w.statistics.set id (s.after events)) : w.Advances w' := by
  intro other t ht
  rw [h, List.getElem?_set]
  by_cases hother : id = other
  · subst hother
    obtain rfl := Option.some.inj (hs.symm.trans ht)
    refine ⟨s.after events, ?_, fun hstopped => ?_⟩
    · rw [if_pos rfl, if_pos (List.getElem?_eq_some_iff.mp hs).1]
    · exact (Statistics.isStopped_after events).mpr (.inl hstopped)
  · rw [if_neg hother]
    exact ⟨t, ht, fun hstopped => hstopped⟩

/-- New statistics leave those that are there. -/
theorem Advances.of_append {created : Statistics}
    (h : w'.statistics = w.statistics ++ [created]) : w.Advances w' := by
  intro id s hs
  refine ⟨s, ?_, fun hstopped => hstopped⟩
  rw [h, List.getElem?_append_left (List.getElem?_eq_some_iff.mp hs).1]
  exact hs

end World

/-- No request takes statistics back. -/
theorem TrackerRequest.perform_advances (request : TrackerRequest) {h : TrackerHandle} (job : Job)
    {w : World} (hheld : ∀ id, h.statistics = some id → ∃ s, w.statistics[id]? = some s) :
    w.Advances (request.perform h job w).2 := by
  cases hid : h.statistics with
  | some id =>
    obtain ⟨s, hs⟩ := hheld id hid
    obtain ⟨-, points, hworld⟩ := request.perform_of_some job hid hs
    rw [hworld]
    exact .of_after hs rfl
  | none =>
    by_cases hstart : request = .start
    · subst hstart
      rw [perform, TrackerHandle.start_of_none job hid]
      exact .of_append rfl
    · rw [(perform_of_none job hid hstart).2]
      exact .of_eq rfl

/-! ## Section 2: Stages -/

namespace TrackerHandle

variable (h : TrackerHandle)

/-- Without statistics, the name decides. -/
theorem stage_none : h.stage none = if h.chosenName.isSome then .armed else .idle := rfl

/-- Only statistics lead beyond armed. -/
theorem rank_stage_none_le : (h.stage none).rank ≤ TrackerStage.armed.rank := by
  rw [stage_none]
  split <;> decide

theorem statisticsOf_eq_none {h : TrackerHandle} (hnone : h.statistics = none) (w : World) :
    w.statisticsOf h = none := by
  rw [World.statisticsOf, hnone, Option.bind_none]

end TrackerHandle

namespace Run

variable {run run' : Run} {name : String}

/-- Where a tracker variable stands. -/
def stage? (run : Run) (name : String) : Option TrackerStage :=
  (run.handle? name).map fun h => h.stage (run.world.statisticsOf h)

namespace Consistent

/-- A tracker with statistics collects until they stop. -/
theorem stage_of_feeds (hrun : run.Consistent) {h : TrackerHandle} {id : TrackerId}
    {s : Statistics} (hhandle : run.handle? name = some h) (hid : h.statistics = some id)
    (hs : run.world.statistics[id]? = some s) :
    h.stage (run.world.statisticsOf h) = if s.isStopped then .stopped else .collecting := by
  have hstarted := hrun.started id s hs
  obtain ⟨s', hs', -, hcollecting⟩ := hrun.held name h id hhandle hid
  obtain rfl := Option.some.inj (hs.symm.trans hs')
  simp only [World.statisticsOf, hid, Option.bind_some, hs, TrackerHandle.stage]
  by_cases hstopped : s.isStopped = true
  · rw [if_pos hstopped, if_pos hstopped]
  · -- Statistics that were started and have not stopped are running
    have hrunning : s.isRunning = true := by
      rw [Statistics.isStopped_iff] at hstopped
      rw [Statistics.isRunning_iff]
      cases hphase : s.core.phase with
      | notStarted => exact absurd hphase hstarted
      | running => rfl
      | stopped => exact absurd hphase hstopped
    rw [if_neg hstopped, if_neg hstopped, hcollecting hrunning, hrunning]
    rfl

/-- As statistics advance, the stage of a tracker that feeds them does. -/
theorem rank_le_of_feeds (hrun : run.Consistent) (hrun' : run'.Consistent)
    (hadvances : run.world.Advances run'.world) {h h' : TrackerHandle} {id : TrackerId}
    (hhandle : run.handle? name = some h) (hid : h.statistics = some id)
    (hhandle' : run'.handle? name = some h') (hid' : h'.statistics = some id) :
    (h.stage (run.world.statisticsOf h)).rank ≤ (h'.stage (run'.world.statisticsOf h')).rank := by
  obtain ⟨s, hs⟩ := hrun.exists_fed hhandle id hid
  obtain ⟨s', hs', hstopped⟩ := hadvances id s hs
  rw [hrun.stage_of_feeds hhandle hid hs, hrun'.stage_of_feeds hhandle' hid' hs']
  cases hbefore : s.isStopped with
  | true => rw [hstopped hbefore]
  | false => cases s'.isStopped <;> decide

/-- A tracker that has got statistics is collecting or beyond. -/
theorem le_rank_of_feeds (hrun : run.Consistent) {h : TrackerHandle} {id : TrackerId}
    (hhandle : run.handle? name = some h) (hid : h.statistics = some id) :
    TrackerStage.collecting.rank ≤ (h.stage (run.world.statisticsOf h)).rank := by
  obtain ⟨s, hs⟩ := hrun.exists_fed hhandle id hid
  rw [hrun.stage_of_feeds hhandle hid hs]
  cases s.isStopped <;> decide

end Consistent

/-! ## Section 3: Calls -/

variable {line : Line} {target : String} {index : Nat} {arguments : List Argument}

/-- The call takes back the name of a tracker that has no statistics: it is `setdisplayname` with
unset text. -/
def TakesNameBack (run : Run) (line : Line) (target : String) (index : Nat)
    (arguments : List Argument) : Prop :=
  ∃ h values, run.handle? target = some h ∧ h.statistics = none ∧
    (TrackerOperation.catalog h.kind)[index]? = some .setDisplayName ∧
    run.evaluate line arguments = .ok values ∧ values[0]? = some (.text none)

/-- Only an operation that chooses names asks for no name. -/
theorem setDisplayName_of_request {h : TrackerHandle} {values : List Value}
    (hrequest : h.request index values = .ok (.chooseName none)) :
    (TrackerOperation.catalog h.kind)[index]? = some .setDisplayName ∧
      values[0]? = some (.text none) := by
  unfold TrackerHandle.request at hrequest
  cases hop : (TrackerOperation.catalog h.kind)[index]? with
  | none =>
    rw [hop] at hrequest
    cases hrequest
  | some op =>
    rw [hop] at hrequest
    cases op with
    | setDisplayName =>
      obtain ⟨name, hname, hchosen⟩ := exists_of_bind_ok hrequest
      obtain rfl : name = none := by
        cases hchosen
        rfl
      refine ⟨rfl, ?_⟩
      unfold Arguments.text at hname
      split at hname
      · rename_i t hvalue
        rw [hvalue, Except.ok.inj hname]
      · cases hname
    | addValue | incrementCategory =>
      obtain ⟨value, -, hobserved⟩ := exists_of_bind_ok hrequest
      cases hobserved
    | increment | startTimer | startTracker | stopTimer | stopTracker => cases hrequest

/-- A call advances statistics, whatever it is. -/
theorem Consistent.invoke_advances (hrun : run.Consistent) (line : Line) (target : String)
    (index : Nat) (arguments : List Argument) :
    run.world.Advances (run.invoke line target index arguments).1.world := by
  cases hasked : run.asked line target index arguments with
  | none => exact .of_eq (invoke_of_not_asked hasked).world.statistics
  | some asked =>
    obtain ⟨h, request⟩ := asked
    obtain ⟨hhandle, issued, messages, hinvoked⟩ := invoke_of_asked hasked
    rw [hinvoked]
    exact request.perform_advances run.job (hrun.exists_fed hhandle)

/-- A handle without statistics goes forward with every request, unless its name is taken back. -/
theorem Consistent.rank_le_of_request {request : TrackerRequest} (hrun' : run'.Consistent)
    {h h' : TrackerHandle} {job : Job} {w : World} (hnone : h.statistics = none)
    (hhandle' : run'.handle? name = some h') (hperform : (request.perform h job w).1 = h') :
    (h.stage none).rank ≤ (h'.stage (run'.world.statisticsOf h')).rank ∨
      request = .chooseName none ∧ h.stage none = .armed ∧
        h'.stage (run'.world.statisticsOf h') = .idle := by
  by_cases hstart : request = .start
  · subst hstart
    have hid' : h'.statistics = some w.statistics.length := by
      rw [← hperform, TrackerRequest.perform, TrackerHandle.start_of_none job hnone]
    left
    calc (h.stage none).rank
        _ ≤ TrackerStage.armed.rank := h.rank_stage_none_le
        _ ≤ TrackerStage.collecting.rank := by decide
        _ ≤ _ := hrun'.le_rank_of_feeds hhandle' hid'
  · have hnone' : h'.statistics = none := by
      rw [← hperform]
      exact (TrackerRequest.perform_of_none job hnone hstart).1
    rw [TrackerHandle.statisticsOf_eq_none hnone']
    subst hperform
    cases request with
    | start => exact absurd rfl hstart
    | chooseName chosen =>
      cases chosen with
      | some _ => exact .inl h.rank_stage_none_le
      | none =>
        -- The name of an armed tracker is taken back; an idle one had none
        cases hchosen : h.chosenName with
        | none =>
          left
          rw [h.stage_none, hchosen]
          exact Nat.zero_le _
        | some _ =>
          right
          rw [h.stage_none, hchosen]
          exact ⟨rfl, rfl, rfl⟩
    | stop => exact .inl (Nat.le_refl _)
    | observe o => exact .inl (Nat.le_refl _)

/-- A call moves every tracker forward, unless it takes a name back. -/
theorem Consistent.rank_le_of_invoke (hrun : run.Consistent) (line : Line) (target : String)
    (index : Nat) (arguments : List Argument) {h : TrackerHandle}
    (hhandle : run.handle? name = some h) :
    let called := (run.invoke line target index arguments).1
    ∃ h', called.handle? name = some h' ∧
      ((h.stage (run.world.statisticsOf h)).rank ≤
          (h'.stage (called.world.statisticsOf h')).rank ∨
        name = target ∧ run.TakesNameBack line target index arguments ∧
          h.stage (run.world.statisticsOf h) = .armed ∧
          h'.stage (called.world.statisticsOf h') = .idle) := by
  intro called
  have hcalled : called.Consistent := hrun.invoke line target index arguments
  have hadvances : run.world.Advances called.world :=
    hrun.invoke_advances line target index arguments
  -- Handles other than the target's stay as they are, and only their statistics can advance
  have hother (hhandle' : called.handle? name = some h) :
      (h.stage (run.world.statisticsOf h)).rank ≤
        (h.stage (called.world.statisticsOf h)).rank := by
    cases hid : h.statistics with
    | some id => exact hrun.rank_le_of_feeds hcalled hadvances hhandle hid hhandle' hid
    | none =>
      rw [TrackerHandle.statisticsOf_eq_none hid, TrackerHandle.statisticsOf_eq_none hid]
  cases hasked : run.asked line target index arguments with
  | none =>
    have hhandle' := ((invoke_of_not_asked hasked).handles name).trans hhandle
    exact ⟨h, hhandle', .inl (hother hhandle')⟩
  | some asked =>
    obtain ⟨handle, request⟩ := asked
    obtain ⟨htarget, issued, messages, hinvoked⟩ := invoke_of_asked hasked
    have hset : called.handle? name =
        if name = target then some (request.perform handle run.job run.world).1
        else run.handle? name := by
      show (run.invoke line target index arguments).1.handle? name = _
      rw [hinvoked]
      exact handle?_set_tracker htarget _ name
    by_cases hname : name = target
    · subst hname
      obtain rfl := Option.some.inj (hhandle.symm.trans htarget)
      rw [if_pos rfl] at hset
      refine ⟨_, hset, ?_⟩
      cases hid : h.statistics with
      | some id =>
        obtain ⟨s, hs⟩ := hrun.exists_fed hhandle id hid
        have hid' := (request.perform_of_some run.job hid hs).1
        exact .inl (hrun.rank_le_of_feeds hcalled hadvances hhandle hid hset hid')
      | none =>
        rw [TrackerHandle.statisticsOf_eq_none hid]
        rcases hcalled.rank_le_of_request hid hset rfl with hle | ⟨rfl, harmed, hidle⟩
        · exact .inl hle
        · obtain ⟨-, values, hvalues, hrequest⟩ := request_of_asked hasked
          obtain ⟨hop, hunset⟩ := setDisplayName_of_request hrequest
          exact .inr ⟨rfl, ⟨h, values, hhandle, hid, hop, hvalues, hunset⟩, harmed, hidle⟩
    · rw [if_neg hname] at hset
      have hhandle' := hset.trans hhandle
      exact ⟨h, hhandle', .inl (hother hhandle')⟩

/-! ## Section 4: Runs -/

/-- **Trackers move forward**, in the order of their stages, with one exception. In every state that
a run can reach, a call, whatever its target, index and arguments, leaves every tracker variable at
the stage it had or at a later one, those that share statistics with the target included; only a
call of `setdisplayname` with unset text, on a variable that feeds no statistics, takes that
variable from armed back to idle. -/
theorem stages_move_forward (job : Job) (network : Pop.Network) (steps : List Step) (line : Line)
    (target : String) (index : Nat) (arguments : List Argument) (name : String)
    (stage : TrackerStage) :
    let run := (initial job network).performAll steps
    let called := (run.invoke line target index arguments).1
    run.stage? name = some stage →
      ∃ stage', called.stage? name = some stage' ∧
        (stage.rank ≤ stage'.rank ∨
          name = target ∧ run.TakesNameBack line target index arguments ∧
            stage = .armed ∧ stage' = .idle) := by
  intro run called hstage
  have hrun : run.Consistent := (consistent_initial job network).performAll steps
  obtain ⟨h, hhandle, rfl⟩ := Option.map_eq_some_iff.mp hstage
  obtain ⟨h', hhandle', hle⟩ := hrun.rank_le_of_invoke line target index arguments hhandle
  exact ⟨_, Option.map_eq_some_iff.mpr ⟨h', hhandle', rfl⟩, hle⟩

/-- A tracker that is stopped through one of two variables has stopped for the other as well. -/
theorem shared_tracker_moves_forward :
    let run := (initial {} {}).performAll [.declare ⟨0⟩ "a" "categoricaltracker",
      .declare ⟨1⟩ "b" "categoricaltracker", .invoke ⟨2⟩ "a" 2 [],
      .assign ⟨3⟩ "b" (.variable "a")]
    let called := (run.invoke ⟨4⟩ "a" 3 []).1
    run.stage? "b" = some .collecting ∧ called.stage? "b" = some .stopped ∧
      ∃ stage', called.stage? "b" = some stage' ∧
        (TrackerStage.collecting.rank ≤ stage'.rank ∨
          "b" = "a" ∧ run.TakesNameBack ⟨4⟩ "a" 3 [] ∧
            TrackerStage.collecting = .armed ∧ stage' = .idle) := by
  intro run called
  have hbefore : run.stage? "b" = some .collecting := by decide
  have hafter : called.stage? "b" = some .stopped := by decide
  exact ⟨hbefore, hafter, stages_move_forward {} {} [.declare ⟨0⟩ "a" "categoricaltracker",
    .declare ⟨1⟩ "b" "categoricaltracker", .invoke ⟨2⟩ "a" 2 [],
    .assign ⟨3⟩ "b" (.variable "a")] ⟨4⟩ "a" 3 [] "b" .collecting hbefore⟩

/-- A tracker that was given a name and has not been started loses it again to unset text. -/
theorem unset_name_moves_back :
    let run := (initial {} {}).performAll [.declare ⟨0⟩ "t" "incrementaltracker",
      .declare ⟨1⟩ "s" "string", .invoke ⟨2⟩ "t" 1 [.literal (.text "Requests")]]
    let called := (run.invoke ⟨3⟩ "t" 1 [.variable "s"]).1
    run.stage? "t" = some .armed ∧ called.stage? "t" = some .idle ∧
      ¬TrackerStage.armed.rank ≤ TrackerStage.idle.rank := by
  decide

end Run

end JobScript
