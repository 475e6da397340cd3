import JobScript.Proofs.Run.Effects
import JobScript.Proofs.Trackers.Frame
import JobScript.Proofs.Trackers.Stopping

/-!
# No Tracker Escapes

Every handle says for itself whether it collects, and the end of a run takes its word for it. That
goes well because of an invariant over all handles, the statistics they share, and those they let
go of: whatever runs is fed by handles that collect only, and whatever was created is still fed or
known as let go of.

## Architecture

- `Run.mem_liveTrackers`: what is live, by handles and retired numbers
- `Run.Consistent`: the invariant
- `Run.Consistent.perform`, `Run.Consistent.performAll`: steps and runs keep it
- `Run.statistics_stopTrackers`: in a consistent run, the end stops everything
- `Run.no_tracker_escapes`: what this means for any run from its beginning
-/

namespace JobScript

/-! ## Section 1: Live statistics -/

private theorem nodup_eraseDups (ids : List TrackerId) : ids.eraseDups.Nodup := by
  cases ids with
  | nil => exact List.nodup_nil
  | cons id rest =>
    rw [List.eraseDups_cons, List.nodup_cons]
    constructor
    · rw [List.mem_eraseDups]
      simp
    · exact nodup_eraseDups _
  termination_by ids.length
  decreasing_by exact Nat.lt_succ_of_le (List.length_filter_le _ rest)

namespace Run

variable {run run' : Run}

/-- A tracker variable feeds the statistics of a number. -/
def Feeds (run : Run) (id : TrackerId) : Prop :=
  ∃ name h, run.handle? name = some h ∧ h.statistics = some id

theorem nodup_liveTrackers (run : Run) : run.liveTrackers.Nodup :=
  nodup_eraseDups _

/-- Handles of variables, read off the list of variables. -/
theorem mem_variables_iff (hnames : (run.variables.map Prod.fst).Nodup) {name : String}
    {h : TrackerHandle} : (name, Value.tracker h) ∈ run.variables ↔ run.handle? name = some h :=
  (mem_iff_lookup hnames).trans handle?_eq_some_iff.symm

/-- Live are the statistics that variables feed, and those that variables let go of. -/
theorem mem_liveTrackers (hnames : (run.variables.map Prod.fst).Nodup) {id : TrackerId} :
    id ∈ run.liveTrackers ↔ run.Feeds id ∨ id ∈ run.retired := by
  rw [liveTrackers, List.mem_eraseDups, List.mem_append, List.mem_filterMap]
  apply or_congr_left
  constructor
  · -- Every entry is what its name leads to, since names differ
    rintro ⟨⟨name, value⟩, hmem, hfed⟩
    rw [fedBy_eq] at hfed
    obtain ⟨h, hhandle, hid⟩ := Option.bind_eq_some_iff.mp hfed
    cases value with
    | tracker h' =>
      obtain rfl := Option.some.inj hhandle
      exact ⟨name, h', (mem_variables_iff hnames).mp hmem, hid⟩
    | _ => cases hhandle
  · rintro ⟨name, h, hhandle, hid⟩
    exact ⟨(name, .tracker h), (mem_variables_iff hnames).mpr hhandle, hid⟩

/-! ## Section 2: The invariant -/

/-- Handles and statistics agree: names differ; statistics are created running; what a handle
feeds exists, has its kind, and runs only while the handle collects; and every set of statistics
is fed by some variable or retired. -/
structure Consistent (run : Run) : Prop where
  names : (run.variables.map Prod.fst).Nodup
  started : ∀ (id : TrackerId) (s : Statistics), run.world.statistics[id]? = some s →
    s.core.phase ≠ .notStarted
  held : ∀ name h id, run.handle? name = some h → h.statistics = some id →
    ∃ s, run.world.statistics[id]? = some s ∧ s.kind = h.kind ∧
      (s.isRunning = true → h.collecting = true)
  retired : ∀ id ∈ run.retired, id < run.world.statistics.length
  reached : ∀ id, id < run.world.statistics.length → run.Feeds id ∨ id ∈ run.retired

namespace Consistent

/-- What a handle feeds is there. -/
theorem exists_fed (h : run.Consistent) {name : String} {handle : TrackerHandle}
    (hhandle : run.handle? name = some handle) :
    ∀ id, handle.statistics = some id → ∃ s, run.world.statistics[id]? = some s := by
  intro id hid
  obtain ⟨s, hs, -⟩ := h.held name handle id hhandle hid
  exact ⟨s, hs⟩

theorem lt_of_feeds (h : run.Consistent) {id : TrackerId} (hfeeds : run.Feeds id) :
    id < run.world.statistics.length := by
  obtain ⟨name, handle, hhandle, hid⟩ := hfeeds
  obtain ⟨s, hs⟩ := h.exists_fed hhandle id hid
  exact (List.getElem?_eq_some_iff.mp hs).1

theorem mem_liveTrackers_iff (h : run.Consistent) {id : TrackerId} :
    id ∈ run.liveTrackers ↔ id < run.world.statistics.length := by
  rw [mem_liveTrackers h.names]
  constructor
  · rintro (hfeeds | hretired)
    · exact h.lt_of_feeds hfeeds
    · exact h.retired id hretired
  · exact h.reached id

/-! ## Section 3: Steps -/

/-- Steps that leave trackers alone keep the invariant. -/
theorem of_keepsTrackers (h : run.Consistent) (hkeeps : run.KeepsTrackers run') :
    run'.Consistent where
  names := by
    rw [hkeeps.names]
    exact h.names
  started := by
    rw [hkeeps.world.statistics]
    exact h.started
  held := by
    intro name handle id hhandle hid
    rw [hkeeps.handles] at hhandle
    rw [hkeeps.world.statistics]
    exact h.held name handle id hhandle hid
  retired := by
    rw [hkeeps.retired, hkeeps.world.statistics]
    exact h.retired
  reached := by
    intro id hid
    rw [hkeeps.world.statistics] at hid
    simp only [Feeds, hkeeps.handles, hkeeps.retired]
    exact h.reached id hid

/-- A new variable feeds nothing yet. -/
theorem declare (h : run.Consistent) {line : Line} {name : String} {t : ValueType}
    (hdeclare : run.declare line name t = .ok run') : run'.Consistent := by
  obtain ⟨hnone, source, issued, rfl⟩ := declare_ok hdeclare
  have hname : run.handle? name = none := by rw [handle?, hnone]; rfl
  have hhandle := handle?_append hnone (Value.declared t name source) { run.world with issued }
  have hidle : ∀ handle, (Value.declared t name source).handle? = some handle →
      handle.statistics = none := by
    intro handle hdeclared
    cases t <;> cases hdeclared
    rfl
  constructor
  · rw [List.map_append, List.nodup_append]
    refine ⟨h.names, by simp, ?_⟩
    rintro key hkey _ hlast rfl
    obtain rfl := List.mem_singleton.mp hlast
    obtain ⟨⟨_, value⟩, hmem, rfl⟩ := List.mem_map.mp hkey
    have hlookup := (mem_iff_lookup h.names).mp hmem
    exact absurd (hnone.symm.trans hlookup) (by simp)
  · exact h.started
  · intro other handle id hother hid
    rw [hhandle] at hother
    split at hother
    · rw [hidle handle hother] at hid
      cases hid
    · exact h.held other handle id hother hid
  · exact h.retired
  · intro id hid
    rcases h.reached id hid with ⟨other, handle, hother, hfed⟩ | hretired
    · left
      refine ⟨other, handle, ?_, hfed⟩
      rw [hhandle, if_neg]
      · exact hother
      · rintro rfl
        rw [hname] at hother
        cases hother
    · exact .inr hretired

/-- A step that changes one handle keeps the invariant: it may create statistics for the handle to
feed and stop what was there, as long as the handle agrees with what it feeds, and what it no
longer feeds is retired. -/
theorem set (h : run.Consistent) {target : String} {handle after : TrackerHandle} {w : World}
    {retired : List TrackerId} (hhandle : run.handle? target = some handle)
    (hstarted : ∀ (id : TrackerId) (s : Statistics), w.statistics[id]? = some s →
      s.core.phase ≠ .notStarted)
    (hkept : ∀ (id : TrackerId) (s : Statistics), run.world.statistics[id]? = some s →
      ∃ s', w.statistics[id]? = some s' ∧ s'.kind = s.kind ∧
        (s'.isRunning = true → s.isRunning = true))
    (hagrees : ∀ id, after.statistics = some id → ∃ s, w.statistics[id]? = some s ∧
      s.kind = after.kind ∧ (s.isRunning = true → after.collecting = true))
    (hcreated : ∀ id, id < w.statistics.length →
      id < run.world.statistics.length ∨ after.statistics = some id)
    (hretired : ∀ id, id ∈ retired ↔
      id ∈ run.retired ∨ handle.statistics = some id ∧ after.statistics ≠ some id) :
    Consistent { run.set target (.tracker after) with world := w, retired } := by
  have hset := handle?_set_tracker hhandle after
  -- Statistics are never dropped
  have hlength {id : TrackerId} (hid : id < run.world.statistics.length) :
      id < w.statistics.length := by
    obtain ⟨s, hs, -⟩ := hkept id _ (List.getElem?_eq_getElem hid)
    exact (List.getElem?_eq_some_iff.mp hs).1
  constructor
  · exact (names_replace target _ run.variables).symm ▸ h.names
  · exact hstarted
  · intro name other id hother hid
    have hother' := (hset name).symm.trans hother
    split at hother'
    · obtain rfl := Option.some.inj hother'
      exact hagrees id hid
    · -- Another handle, which may feed the same statistics
      obtain ⟨s, hs, hkind, hcollecting⟩ := h.held name other id hother' hid
      obtain ⟨s', hs', hkind', hrunning⟩ := hkept id s hs
      exact ⟨s', hs', hkind'.trans hkind, fun hs' => hcollecting (hrunning hs')⟩
  · intro id hid
    rcases (hretired id).mp hid with hid | ⟨hid, -⟩
    · exact hlength (h.retired id hid)
    · exact hlength (h.lt_of_feeds ⟨target, handle, hhandle, hid⟩)
  · intro id hid
    -- Fed by the changed handle, by another one as before, or let go of by this step
    by_cases hafter : after.statistics = some id
    · exact .inl ⟨target, after, (hset target).trans (if_pos rfl), hafter⟩
    · rcases h.reached id ((hcreated id hid).resolve_right hafter) with
        ⟨name, other, hother, hfed⟩ | hmem
      · by_cases hname : name = target
        · subst hname
          obtain rfl := Option.some.inj (hhandle.symm.trans hother)
          exact .inr ((hretired id).mpr (.inr ⟨hfed, hafter⟩))
        · exact .inl ⟨name, other, (hset name).trans ((if_neg hname).trans hother), hfed⟩
      · exact .inr ((hretired id).mpr (.inl hmem))

/-- A request to statistics that exist keeps the invariant: aliases of a handle that stops, or is
asked to start again, see it in the statistics they share. -/
theorem request_of_some (h : run.Consistent) {target : String} {handle : TrackerHandle}
    {request : TrackerRequest} {id : TrackerId} {issued : Nat} {messages : List Message}
    (hhandle : run.handle? target = some handle) (hid : handle.statistics = some id) :
    Consistent { run.set target (.tracker (request.perform handle run.job run.world).1) with
      world := { (request.perform handle run.job run.world).2 with issued, messages } } := by
  obtain ⟨s, hs, hkind, hcollecting⟩ := h.held target handle id hhandle hid
  obtain ⟨hid', points, hworld⟩ := request.perform_of_some run.job hid hs
  have hcollecting' := request.collecting_perform run.job hid hs hcollecting
  have hkind' := request.kind_perform handle run.job run.world
  have hlt := (List.getElem?_eq_some_iff.mp hs).1
  rw [hworld]
  generalize (request.perform handle run.job run.world).1 = handle' at *
  generalize request.passed handle.collecting run.world.now = events at *
  -- One set of statistics takes in the events; all others stay
  have hstatistics (j : TrackerId) :
      (run.world.statistics.set id (s.after events))[j]? =
        if j = id then some (s.after events) else run.world.statistics[j]? := by
    split
    · rename_i hj
      rw [hj, List.getElem?_set_self hlt]
    · rename_i hj
      exact List.getElem?_set_ne (Ne.symm hj)
  refine h.set hhandle ?started ?kept ?agrees ?created ?retired
  case started =>
    intro j s' hs'
    rw [hstatistics] at hs'
    split at hs'
    · obtain rfl := Option.some.inj hs'
      exact Statistics.started_after (h.started id s hs) events
    · exact h.started j s' hs'
  case kept =>
    intro j s' hs'
    rw [hstatistics]
    split
    · rename_i hj
      subst hj
      obtain rfl := Option.some.inj (hs.symm.trans hs')
      exact ⟨_, rfl, s.kind_after events, Statistics.isRunning_of_after (h.started j s hs)⟩
    · exact ⟨s', hs', rfl, fun hrunning => hrunning⟩
  case agrees =>
    intro j hj
    obtain rfl := Option.some.inj (hid'.symm.trans hj)
    rw [hstatistics, if_pos rfl]
    exact ⟨_, rfl, (s.kind_after events).trans (hkind.trans hkind'.symm), hcollecting'⟩
  case created =>
    intro j hj
    rw [List.length_set] at hj
    exact .inl hj
  case retired =>
    -- The handle feeds what it fed
    simp [hid, hid', Run.set]

/-- The first start creates statistics that its target feeds. -/
theorem start_of_none (h : run.Consistent) {target : String} {handle : TrackerHandle}
    {issued : Nat} {messages : List Message} (hhandle : run.handle? target = some handle)
    (hnone : handle.statistics = none) :
    Consistent { run.set target (.tracker (handle.start run.job run.world).1) with
      world := { (handle.start run.job run.world).2 with issued, messages } } := by
  rw [TrackerHandle.start_of_none run.job hnone]
  have hphase : ((handle.newStatistics run.job).start run.world.now).core.phase = .running := by
    rw [Statistics.phase_start, TrackerHandle.phase_newStatistics, if_pos rfl]
  have hkind : ((handle.newStatistics run.job).start run.world.now).kind = handle.kind := by
    rw [Statistics.kind_start, TrackerHandle.kind_newStatistics]
  generalize (handle.newStatistics run.job).start run.world.now = created at hphase hkind ⊢
  refine h.set hhandle ?started ?kept ?agrees ?created ?retired
  case started =>
    intro id s hs
    rcases List.mem_append.mp (List.mem_of_getElem? hs) with hmem | hmem
    · obtain ⟨i, hi⟩ := List.mem_iff_getElem?.mp hmem
      exact h.started i s hi
    · obtain rfl := List.mem_singleton.mp hmem
      rw [hphase]
      simp
  case kept =>
    intro j s hs
    refine ⟨s, ?_, rfl, id⟩
    rw [List.getElem?_append_left (List.getElem?_eq_some_iff.mp hs).1]
    exact hs
  case agrees =>
    intro id hid
    obtain rfl := Option.some.inj hid
    exact ⟨created, by simp, hkind, fun _ => rfl⟩
  case created =>
    intro id hid
    rw [List.length_append, List.length_singleton] at hid
    rcases Nat.lt_succ_iff_lt_or_eq.mp hid with hlt | rfl
    · exact .inl hlt
    · exact .inr rfl
  case retired =>
    simp [hnone, Run.set]

/-- A handle that feeds nothing and goes on feeding nothing may change otherwise. -/
theorem set_of_none (h : run.Consistent) {target : String} {handle after : TrackerHandle}
    {issued : Nat} {messages : List Message} (hhandle : run.handle? target = some handle)
    (hnone : handle.statistics = none) (hafter : after.statistics = none) :
    Consistent { run.set target (.tracker after) with
      world := { run.world with issued, messages } } := by
  refine h.set hhandle h.started (fun j s hs => ⟨s, hs, rfl, id⟩) ?agrees (fun _ => .inl) ?retired
  case agrees =>
    intro id hid
    rw [hafter] at hid
    cases hid
  case retired =>
    simp [hnone, Run.set]

/-- Calls keep the invariant. -/
theorem invoke (h : run.Consistent) (line : Line) (target : String) (index : Nat)
    (arguments : List Argument) : (run.invoke line target index arguments).1.Consistent := by
  cases hasked : run.asked line target index arguments with
  | none => exact h.of_keepsTrackers (invoke_of_not_asked hasked)
  | some asked =>
    obtain ⟨handle, request⟩ := asked
    obtain ⟨hhandle, issued, messages, hinvoke⟩ := invoke_of_asked hasked
    rw [hinvoke]
    cases hid : handle.statistics with
    | some id => exact h.request_of_some hhandle hid
    | none =>
      -- Without statistics, a start creates them, and no other request does anything
      by_cases hstart : request = .start
      · subst hstart
        exact h.start_of_none hhandle hid
      · obtain ⟨hafter, hworld⟩ :=
          TrackerRequest.perform_of_none run.job (w := run.world) hid hstart
        rw [hworld]
        exact h.set_of_none hhandle hid hafter

/-- An assignment hands on a handle that agrees with its statistics, and retires what the target
no longer feeds. -/
theorem assign (h : run.Consistent) {line : Line} {target : String} {source : Argument}
    (hassign : run.assign line target source = .ok run') : run'.Consistent := by
  rcases assign_cases hassign with hkeeps | ⟨name, handle, other, -, hhandle, hother, hkind, rfl⟩
  · exact h.of_keepsTrackers hkeeps
  · refine h.set hhandle h.started (fun j s hs => ⟨s, hs, rfl, id⟩) ?agrees (fun _ => .inl) ?retired
    case agrees =>
      intro id hid
      obtain ⟨s, hs, hskind, hcollecting⟩ := h.held name other id hother hid
      exact ⟨s, hs, hskind.trans hkind.symm, hcollecting⟩
    case retired =>
      intro id
      rw [List.mem_append, mem_abandoned]
      rfl

/-! ## Section 4: The end -/

/-- **The end stops everything**: statistics that no collecting handle feeds and that were not
retired are not running anyway. -/
theorem statistics_stopTrackers (h : run.Consistent) :
    run.stopTrackers.world.statistics =
      run.world.statistics.map fun s => (s.stop run.world.now).1 := by
  apply List.ext_getElem?
  intro id
  rw [List.getElem?_map]
  have hstops := stops_stopTrackers run
  -- What the end does not reach is not running, by the invariant
  by_cases hreached : (∃ entry ∈ run.variables, ∃ h, entry.2.handle? = some h ∧
      h.collecting = true ∧ h.statistics = some id) ∨ id ∈ run.retired
  · exact hstops.stopped id hreached
  · rw [hstops.kept id hreached]
    cases hs : run.world.statistics[id]? with
    | none => rfl
    | some s =>
      have hidle : s.isRunning = false := by
        rw [← Bool.not_eq_true]
        intro hrunning
        apply hreached
        rcases h.reached id (List.getElem?_eq_some_iff.mp hs).1 with
          ⟨name, handle, hhandle, hfed⟩ | hretired
        · left
          obtain ⟨s', hs', -, hcollecting⟩ := h.held name handle id hhandle hfed
          obtain rfl := Option.some.inj (hs.symm.trans hs')
          exact ⟨(name, .tracker handle), (mem_variables_iff h.names).mpr hhandle, handle, rfl,
            hcollecting hrunning, hfed⟩
        · exact .inr hretired
      rw [Option.map_some, Statistics.stop_of_not_running _ hidle]

/-- After the end, nothing runs. -/
theorem isStopped_of_stopTrackers (h : run.Consistent) {id : TrackerId} {s : Statistics}
    (hs : run.stopTrackers.world.statistics[id]? = some s) : s.isStopped = true := by
  rw [h.statistics_stopTrackers, List.getElem?_map] at hs
  obtain ⟨before, hbefore, rfl⟩ := Option.map_eq_some_iff.mp hs
  have hstarted := h.started id before hbefore
  rw [Statistics.isStopped_iff, Statistics.phase_stop]
  cases hphase : before.core.phase with
  | notStarted => exact absurd hphase hstarted
  | running => rfl
  | stopped => rfl

theorem stopTrackers (h : run.Consistent) : run.stopTrackers.Consistent where
  names := by
    rw [show run.stopTrackers.variables.map Prod.fst = run.variables.map Prod.fst from
      names_sweep stopVariable run.variables run.world]
    exact h.names
  started := by
    intro id s hs
    have hstopped := h.isStopped_of_stopTrackers hs
    rw [Statistics.isStopped_iff] at hstopped
    rw [hstopped]
    simp
  held := by
    intro name handle id hhandle hid
    rw [handle?_stopTrackers] at hhandle
    obtain ⟨before, hbefore, rfl⟩ := Option.map_eq_some_iff.mp hhandle
    obtain ⟨s, hs, hkind, -⟩ := h.held name before id hbefore hid
    have hs' : run.stopTrackers.world.statistics[id]? = some (s.stop run.world.now).1 := by
      rw [h.statistics_stopTrackers, List.getElem?_map, hs]
      rfl
    refine ⟨_, hs', (s.kind_stop _).trans hkind, ?_⟩
    intro hrunning
    have hstopped := h.isStopped_of_stopTrackers hs'
    rw [Statistics.isRunning_iff] at hrunning
    rw [Statistics.isStopped_iff, hrunning] at hstopped
    cases hstopped
  retired := by
    rw [h.statistics_stopTrackers, List.length_map]
    exact h.retired
  reached := by
    intro id hid
    rw [h.statistics_stopTrackers, List.length_map] at hid
    rcases h.reached id hid with ⟨name, handle, hhandle, hfed⟩ | hretired
    · left
      refine ⟨name, { handle with collecting := false }, ?_, hfed⟩
      rw [handle?_stopTrackers, hhandle]
      rfl
    · exact .inr hretired

/-! ## Section 5: Runs -/

/-- Whatever a step makes of a run keeps the invariant. -/
theorem of_becomes (h : run.Consistent) (hbecomes : run.Becomes run') : run'.Consistent := by
  cases hbecomes with
  | unchanged => exact h
  | declared hdeclare => exact h.declare hdeclare
  | invoked line target index arguments => exact h.invoke line target index arguments
  | assigned hassign => exact h.assign hassign
  | waited span =>
    exact h.of_keepsTrackers ⟨rfl, rfl, fun _ => rfl, rfl, World.KeepsTrackers.sleep _ span⟩
  | stopRequested requested =>
    exact h.of_keepsTrackers ⟨rfl, rfl, fun _ => rfl, rfl, rfl, Nat.le_refl _⟩
  | trackersStopped => exact h.stopTrackers
  | sessionsReleased => exact h.of_keepsTrackers (keepsTrackers_releaseSessions run)

/-- Every step keeps the invariant, whether it succeeds or fails. -/
theorem perform (h : run.Consistent) (step : Step) : (run.perform step).1.Consistent :=
  h.of_becomes (becomes_perform run step)

theorem performAll (h : run.Consistent) (steps : List Step) :
    (run.performAll steps).Consistent := by
  induction steps generalizing run with
  | nil => exact h
  | cons step steps ih => exact ih (h.perform step)

end Consistent

/-- A run before its first step. -/
def initial (job : Job) (network : Pop.Network) : Run where
  job := job
  world := { network }

theorem consistent_initial (job : Job) (network : Pop.Network) :
    (initial job network).Consistent where
  names := List.nodup_nil
  started := fun id s hs => by cases hs
  held := fun name handle id hhandle _ => by cases hhandle
  retired := fun id hid => by cases hid
  reached := fun id hid => absurd hid (Nat.not_lt_zero id)

end Run

end JobScript
