import JobScript.Proofs.Run.Variables
import JobScript.Proofs.Trackers.Request
import JobScript.Proofs.Statistics.Phase

/-!
# What Is Stopped at the End

The end of a run stops statistics one after the other, some of them more than once. What counts is
which statistics are reached at all: those are stopped, and all others stay as they are.

## Architecture

- `World.Stops`: exactly some statistics are stopped
- `World.stops_stopStatistics`, `Run.stops_stopRunning`: one set of statistics
- `Run.stops_stopTrackers`: the end of a run
- `Run.tracks_stopTrackers`: nothing else is reached
-/

namespace JobScript

/-- Stopping once is enough. -/
theorem Statistics.stop_stop (s : Statistics) (now later : Instant) :
    ((s.stop now).1.stop later).1 = (s.stop now).1 := by
  have hidle : (s.stop now).1.isRunning = false := by
    rw [← Bool.not_eq_true, isRunning_iff, phase_stop]
    split
    · simp
    · assumption
  rw [stop_of_not_running later hidle]

/-! ## Section 1: The shared state -/

/-- Between two states, the statistics of exactly some numbers are stopped. -/
structure World.Stops (reached : TrackerId → Prop) (w w' : World) : Prop where
  now : w'.now = w.now
  stopped : ∀ id, reached id →
    w'.statistics[id]? = (w.statistics[id]?).map fun s => (s.stop w.now).1
  kept : ∀ id, ¬ reached id → w'.statistics[id]? = w.statistics[id]?

namespace World.Stops

variable {reached further : TrackerId → Prop} {w w' w'' : World}

/-- Nothing is stopped. -/
theorem refl (w : World) : Stops (fun _ => False) w w :=
  ⟨rfl, fun _ h => h.elim, fun _ _ => rfl⟩

/-- The same numbers, put another way. -/
theorem congr (h : Stops reached w w') (hsame : ∀ id, further id ↔ reached id) :
    Stops further w w' where
  now := h.now
  stopped := fun id hid => h.stopped id ((hsame id).mp hid)
  kept := fun id hid => h.kept id (mt (hsame id).mpr hid)

/-- What is stopped first or then is stopped in all. -/
theorem trans (first : Stops reached w w') (second : Stops further w' w'') :
    Stops (fun id => reached id ∨ further id) w w'' where
  now := second.now.trans first.now
  stopped := by
    intro id hid
    -- What both steps reach is stopped twice, at two times
    by_cases hfirst : reached id
    · have hstopped := first.stopped id hfirst
      by_cases hsecond : further id
      · rw [second.stopped id hsecond, hstopped, Option.map_map]
        congr 1
        funext s
        exact s.stop_stop w.now w'.now
      · rw [second.kept id hsecond, hstopped]
    · rcases hid with hid | hsecond
      · exact absurd hid hfirst
      · rw [second.stopped id hsecond, first.kept id hfirst, first.now]
  kept := by
    intro id hid
    rw [not_or] at hid
    rw [second.kept id hid.2, first.kept id hid.1]

end World.Stops

theorem World.stops_stopStatistics (w : World) (id : TrackerId) :
    Stops (· = id) w (w.stopStatistics id) := by
  unfold stopStatistics
  split
  · rename_i s hs
    constructor
    · rfl
    · rintro j rfl
      have hlt := (List.getElem?_eq_some_iff.mp hs).1
      simp only [putStatistics, List.getElem?_set_self hlt, hs, Option.map_some]
    · intro j hj
      exact List.getElem?_set_ne (Ne.symm hj)
  · rename_i hnone
    constructor
    · rfl
    · rintro j rfl
      rw [hnone, Option.map_none]
    · exact fun _ _ => rfl

/-! ## Section 2: Runs -/

namespace Run

/-- Statistics that are not running are as good as stopped. -/
theorem stops_stopRunning (w : World) (id : TrackerId) :
    World.Stops (· = id) w (stopRunning w id) := by
  unfold stopRunning
  split
  · exact w.stops_stopStatistics id
  · rename_i hidle
    constructor
    · rfl
    · rintro j rfl
      cases hs : w.statistics[j]? with
      | none => rfl
      | some s =>
        rw [hs, Option.any_some, Bool.not_eq_true] at hidle
        rw [Option.map_some, Statistics.stop_of_not_running w.now hidle]
    · exact fun _ _ => rfl

theorem stops_stopVariable (value : Value) (w : World) :
    World.Stops (fun id => ∃ h, value.handle? = some h ∧ h.collecting = true ∧
      h.statistics = some id) w (stopVariable value w).2 := by
  -- Values without a collecting handle on statistics reach nothing
  have hnothing (hvalue : ∀ id h, value.handle? = some h → h.collecting = true →
      h.statistics ≠ some id) :
      World.Stops (fun id => ∃ h, value.handle? = some h ∧ h.collecting = true ∧
        h.statistics = some id) w w := by
    apply (World.Stops.refl w).congr
    intro id
    simp only [iff_false, not_exists, not_and]
    exact hvalue id
  cases value with
  | tracker h =>
    simp only [stopVariable]
    split
    · rename_i hcollecting
      simp only [TrackerHandle.stop]
      cases hid : h.statistics with
      | none =>
        apply hnothing
        rintro id h' hh - hsome
        obtain rfl := Option.some.inj hh
        rw [hid] at hsome
        cases hsome
      | some id =>
        apply (w.stops_stopStatistics id).congr
        intro j
        simp only [Value.handle?, Option.some.injEq, exists_eq_left', hcollecting, hid, true_and]
        exact eq_comm
    · rename_i hidle
      apply hnothing
      rintro id h' hh hcollecting -
      obtain rfl := Option.some.inj hh
      exact hidle hcollecting
  | _ => exact hnothing (by rintro id h' ⟨⟩)

/-- The sweep reaches what collecting handles feed. -/
theorem stops_sweep (entries : List (String × Value)) (w : World) :
    World.Stops (fun id => ∃ entry ∈ entries, ∃ h, entry.2.handle? = some h ∧
      h.collecting = true ∧ h.statistics = some id) w (sweep stopVariable entries w).2 := by
  induction entries generalizing w with
  | nil =>
    apply (World.Stops.refl w).congr
    simp
  | cons entry rest ih =>
    apply ((stops_stopVariable entry.2 w).trans (ih _)).congr
    intro id
    simp only [List.mem_cons, exists_eq_or_imp]

theorem stops_foldl (ids : List TrackerId) (w : World) :
    World.Stops (· ∈ ids) w (ids.foldl stopRunning w) := by
  induction ids generalizing w with
  | nil =>
    apply (World.Stops.refl w).congr
    simp
  | cons id ids ih =>
    apply ((stops_stopRunning w id).trans (ih _)).congr
    intro j
    exact List.mem_cons

/-- **The end of a run stops** what collecting handles feed and what was let go of. -/
theorem stops_stopTrackers (run : Run) :
    World.Stops (fun id => (∃ entry ∈ run.variables, ∃ h, entry.2.handle? = some h ∧
      h.collecting = true ∧ h.statistics = some id) ∨ id ∈ run.retired)
      run.world run.stopTrackers.world :=
  (stops_sweep run.variables run.world).trans (stops_foldl run.retired _)

/-- The end of a run reaches statistics and nothing else. -/
theorem tracks_stopTrackers (run : Run) : run.world.Tracks run.stopTrackers.world := by
  have hsweep (entries : List (String × Value)) (w : World) :
      w.Tracks (sweep stopVariable entries w).2 := by
    induction entries generalizing w with
    | nil => exact .refl w
    | cons entry rest ih =>
      have hfirst : w.Tracks (stopVariable entry.2 w).2 := by
        unfold stopVariable
        split
        · split
          · exact TrackerRequest.stop.tracks_perform _ run.job w
          · exact .refl w
        · exact .refl w
      exact hfirst.trans (ih _)
  have hfold (ids : List TrackerId) (w : World) : w.Tracks (ids.foldl stopRunning w) := by
    induction ids generalizing w with
    | nil => exact .refl w
    | cons id ids ih =>
      have hfirst : w.Tracks (stopRunning w id) := by
        unfold stopRunning
        split
        · exact w.tracks_stopStatistics id
        · exact .refl w
      exact hfirst.trans (ih _)
  exact (hsweep run.variables run.world).trans (hfold run.retired _)

end Run

end JobScript
