import JobScript.Proofs.Trackers.Consistency

/-!
# What Statistics See of a Run

Seen from one set of statistics, a run is a sequence of events: what successful calls ask of the
variables that feed it at the time, whatever these are called, and the stop that comes to all
statistics. Whether a handle collects does not matter, since a handle that does not feeds nothing
that runs.

## Architecture

- `Run.perform_cases`: what a step does to all statistics
- `Run.told`, `Run.timeline`: the events of one set of statistics
- `Run.getElem?_performAll`: statistics are what their timeline makes of them
- `Run.job_now_perform`: a step keeps the job and does not go back in time
- `Run.isSome_amount?_of_told`: what statistics are told are points of their kind
-/

namespace JobScript

/-! ## Section 1: Requests and single statistics -/

namespace TrackerRequest

variable {request : TrackerRequest} {h : TrackerHandle} {job : Job} {w : World} {id : TrackerId}
  {s : Statistics}

/-- Statistics other than those that a handle feeds are left alone by its requests. -/
theorem getElem?_perform (hs : w.statistics[id]? = some s)
    (hheld : ∀ fed, h.statistics = some fed → ∃ s, w.statistics[fed]? = some s) :
    (request.perform h job w).2.statistics[id]? =
      some (if h.statistics = some id then s.after (request.passed h.collecting w.now) else s) := by
  cases hfed : h.statistics with
  | none =>
    -- The handle feeds nothing: a start appends behind the statistics, the rest does nothing
    rw [if_neg (by simp)]
    by_cases hstart : request = .start
    · subst hstart
      rw [perform, TrackerHandle.start_of_none job hfed]
      exact (List.getElem?_append_left (List.getElem?_eq_some_iff.mp hs).1).trans hs
    · rw [(perform_of_none job hfed hstart).2, hs]
  | some fed =>
    obtain ⟨s', hs'⟩ := hheld fed hfed
    obtain ⟨-, points, hworld⟩ := perform_of_some request job hfed hs'
    rw [hworld]
    by_cases hid : fed = id
    · subst hid
      obtain rfl := Option.some.inj (hs.symm.trans hs')
      rw [if_pos rfl]
      exact List.getElem?_set_self (List.getElem?_eq_some_iff.mp hs).1
    · rw [if_neg (by simpa using hid)]
      exact (List.getElem?_set_ne hid).trans hs

/-- What a handle holds back would not have counted: nothing that it feeds is running. Only an
open timing could make a difference. -/
theorem after_passed {collecting : Bool} {now : Instant}
    (hcollecting : s.isRunning = true → collecting = true) (hkind : s.kind ≠ .time) :
    s.after (request.passed collecting now) = s.after (request.events now) := by
  cases request with
  | observe o =>
    cases collecting with
    | true => rfl
    | false =>
      have hidle : s.isRunning = false := by
        rw [← Bool.not_eq_true]
        intro hrunning
        cases hcollecting hrunning
      have htimer : s.timer = none := by
        cases s with
        | time t => exact absurd rfl hkind
        | _ => rfl
      show s = (s.observe o now).1
      rw [Statistics.observe_of_not_running now hidle htimer]
  | _ => rfl

end TrackerRequest

namespace Run

/-! ## Section 2: Steps and all statistics -/

/-- The handle that a step goes to, with what it asks for. -/
def requested (run : Run) : Step → Option (TrackerHandle × TrackerRequest)
  | .call line target operation arguments =>
    match run.resolveWritten line target operation arguments with
    | .ok index => run.asked line target index arguments
    | .error _ => none
  | .invoke line target index arguments => run.asked line target index arguments
  | _ => none

variable {run : Run} {step : Step}

/-- **What a step does to the statistics**: it carries out a request, stops them all, or leaves
them alone. -/
theorem perform_cases (h : run.Consistent) (step : Step) :
    (∃ name handle request, run.requested step = some (handle, request) ∧
        run.handle? name = some handle ∧
        (run.perform step).1.world.statistics =
          (request.perform handle run.job run.world).2.statistics) ∨
      (step = .stopTrackers ∧ (run.perform step).1.world.statistics =
        run.world.statistics.map fun s => (s.stop run.world.now).1) ∨
      (run.requested step = none ∧ step ≠ .stopTrackers ∧
        (run.perform step).1.world.statistics = run.world.statistics) := by
  have hinvoke (line : Line) (target : String) (index : Nat) (arguments : List Argument) :
      (∃ handle request, run.asked line target index arguments = some (handle, request) ∧
          run.handle? target = some handle ∧
          (run.invoke line target index arguments).1.world.statistics =
            (request.perform handle run.job run.world).2.statistics) ∨
        (run.asked line target index arguments = none ∧
          (run.invoke line target index arguments).1.world.statistics = run.world.statistics) := by
    cases hasked : run.asked line target index arguments with
    | none => exact .inr ⟨rfl, (invoke_of_not_asked hasked).world.statistics⟩
    | some asked =>
      obtain ⟨handle, request⟩ := asked
      obtain ⟨hhandle, issued, messages, heq⟩ := invoke_of_asked hasked
      exact .inl ⟨handle, request, rfl, hhandle, by rw [heq]⟩
  cases step with
  | call line target operation arguments =>
    simp only [requested, perform]
    cases run.resolveWritten line target operation arguments with
    | error d => exact .inr (.inr ⟨rfl, by simp, rfl⟩)
    | ok index =>
      rcases hinvoke line target index arguments with
        ⟨handle, request, hasked, hhandle, heq⟩ | ⟨hasked, heq⟩
      · exact .inl ⟨target, handle, request, hasked, hhandle, heq⟩
      · exact .inr (.inr ⟨hasked, by simp, heq⟩)
  | invoke line target index arguments =>
    rcases hinvoke line target index arguments with
      ⟨handle, request, hasked, hhandle, heq⟩ | ⟨hasked, heq⟩
    · exact .inl ⟨target, handle, request, hasked, hhandle, heq⟩
    · exact .inr (.inr ⟨hasked, by simp, heq⟩)
  | stopTrackers => exact .inr (.inl ⟨rfl, h.statistics_stopTrackers⟩)
  | declare line name keyword =>
    refine .inr (.inr ⟨rfl, by simp, ?_⟩)
    rcases run.perform_declare line name keyword with
      ⟨d, hrefused⟩ | ⟨t, run', -, hdeclare, hperformed⟩
    · rw [hrefused]
    · obtain ⟨-, source, issued, rfl⟩ := declare_ok hdeclare
      rw [hperformed]
  | assign line target source =>
    refine .inr (.inr ⟨rfl, by simp, ?_⟩)
    simp only [perform]
    split
    · rename_i run' hassign
      obtain ⟨value, before, after, -, -, -, rfl⟩ := assign_ok hassign
      rfl
    · rfl
  | releaseSessions =>
    exact .inr (.inr ⟨rfl, by simp, (keepsTrackers_releaseSessions run).world.statistics⟩)
  | wait span => exact .inr (.inr ⟨rfl, by simp, rfl⟩)
  | requestStop requested => exact .inr (.inr ⟨rfl, by simp, rfl⟩)

/-! ## Section 3: Timelines -/

/-- The events that a step means for the statistics of a number: what it asks of a variable that
feeds them, or the stop of all statistics. -/
def told (run : Run) (id : TrackerId) (step : Step) : List TrackerEvent :=
  match step with
  | .stopTrackers => [.stop run.world.now]
  | step =>
    match run.requested step with
    | some (h, request) => if h.statistics = some id then request.events run.world.now else []
    | none => []

/-- The events that steps mean for the statistics of a number, in order. -/
def timeline (run : Run) (id : TrackerId) : List Step → List TrackerEvent
  | [] => []
  | step :: steps => run.told id step ++ (run.perform step).1.timeline id steps

variable {id : TrackerId} {s : Statistics}

theorem told_of_requested {h : TrackerHandle} {request : TrackerRequest}
    (hrequested : run.requested step = some (h, request)) :
    run.told id step = if h.statistics = some id then request.events run.world.now else [] := by
  cases step with
  | stopTrackers => cases hrequested
  | _ => simp only [told, hrequested]

theorem told_of_not_requested (hrequested : run.requested step = none)
    (hstop : step ≠ .stopTrackers) : run.told id step = [] := by
  cases step with
  | stopTrackers => exact absurd rfl hstop
  | _ => simp only [told, hrequested]

/-- Statistics stay, with their kind, and become what a step tells them. -/
theorem getElem?_perform (h : run.Consistent) (hs : run.world.statistics[id]? = some s)
    (step : Step) :
    ∃ s', (run.perform step).1.world.statistics[id]? = some s' ∧ s'.kind = s.kind ∧
      (s.kind ≠ .time → s' = s.after (run.told id step)) := by
  rcases perform_cases h step with
    ⟨name, handle, request, hrequested, hhandle, heq⟩ | ⟨rfl, heq⟩ | ⟨hrequested, hstop, heq⟩
  · rw [heq, TrackerRequest.getElem?_perform hs (h.exists_fed hhandle),
      told_of_requested hrequested]
    refine ⟨_, rfl, ?_, ?_⟩
    · split
      · rw [Statistics.kind_after]
      · rfl
    · -- What the handle held back makes no difference, by the invariant
      intro hkind
      split
      · rename_i hfed
        obtain ⟨s', hs', -, hcollecting⟩ := h.held name handle id hhandle hfed
        obtain rfl := Option.some.inj (hs.symm.trans hs')
        exact TrackerRequest.after_passed hcollecting hkind
      · rfl
  · refine ⟨(s.stop run.world.now).1, ?_, s.kind_stop _, fun _ => rfl⟩
    rw [heq, List.getElem?_map, hs]
    rfl
  · refine ⟨s, heq ▸ hs, rfl, fun _ => ?_⟩
    rw [told_of_not_requested hrequested hstop]
    rfl

/-- **Statistics are what their timeline makes of them.** -/
theorem getElem?_performAll (h : run.Consistent) (hs : run.world.statistics[id]? = some s)
    (steps : List Step) :
    ∃ s', (run.performAll steps).world.statistics[id]? = some s' ∧ s'.kind = s.kind ∧
      (s.kind ≠ .time → s' = s.after (run.timeline id steps)) := by
  induction steps generalizing run s with
  | nil => exact ⟨s, hs, rfl, fun _ => rfl⟩
  | cons step steps ih =>
    obtain ⟨s₁, hs₁, hkind₁, htold⟩ := getElem?_perform h hs step
    obtain ⟨s₂, hs₂, hkind₂, htimeline⟩ := ih (h.perform step) hs₁
    refine ⟨s₂, hs₂, hkind₂.trans hkind₁, ?_⟩
    intro hkind
    rw [timeline, Statistics.after_append, ← htold hkind]
    exact htimeline (hkind₁ ▸ hkind)

theorem length_statistics_le_performAll (h : run.Consistent) (steps : List Step) :
    run.world.statistics.length ≤ (run.performAll steps).world.statistics.length := by
  -- Otherwise some statistics would be missing at the end
  apply Nat.le_of_not_lt
  intro hlt
  obtain ⟨s, hs⟩ : ∃ s, run.world.statistics[(run.performAll steps).world.statistics.length]? =
      some s := ⟨_, List.getElem?_eq_getElem hlt⟩
  obtain ⟨s', hs', -⟩ := getElem?_performAll h hs steps
  exact absurd (List.getElem?_eq_some_iff.mp hs').1 (Nat.lt_irrefl _)

/-! ## Section 4: Job and time -/

/-- The job stays, and time does not run backwards. -/
theorem job_now_of_becomes {run' : Run} (hbecomes : run.Becomes run') :
    run'.job = run.job ∧ run.world.now ≤ run'.world.now := by
  cases hbecomes with
  | unchanged => exact ⟨rfl, Nat.le_refl _⟩
  | declared hdeclare =>
    obtain ⟨-, source, issued, rfl⟩ := declare_ok hdeclare
    exact ⟨rfl, Nat.le_refl _⟩
  | invoked line target index arguments =>
    cases hasked : run.asked line target index arguments with
    | none =>
      have hkeeps := invoke_of_not_asked hasked
      exact ⟨hkeeps.job, hkeeps.world.now_le⟩
    | some asked =>
      obtain ⟨-, issued, messages, heq⟩ := invoke_of_asked hasked
      rw [heq]
      exact ⟨rfl, Nat.le_of_eq (asked.2.now_perform asked.1 run.job run.world).symm⟩
  | assigned hassign =>
    obtain ⟨value, before, after, -, -, -, rfl⟩ := assign_ok hassign
    exact ⟨rfl, Nat.le_refl _⟩
  | waited span => exact ⟨rfl, Nat.le_add_right _ span⟩
  | stopRequested requested => exact ⟨rfl, Nat.le_refl _⟩
  | trackersStopped => exact ⟨rfl, Nat.le_of_eq (stops_stopTrackers run).now.symm⟩
  | sessionsReleased => exact ⟨rfl, (keepsTrackers_releaseSessions run).world.now_le⟩

/-- A step keeps the job, and does not go back in time. -/
theorem job_now_perform (run : Run) (step : Step) :
    (run.perform step).1.job = run.job ∧ run.world.now ≤ (run.perform step).1.world.now :=
  job_now_of_becomes (becomes_perform run step)

theorem job_performAll (run : Run) (steps : List Step) : (run.performAll steps).job = run.job := by
  induction steps generalizing run with
  | nil => rfl
  | cons step steps ih => exact (ih _).trans (job_now_perform run step).1

/-! ## Section 5: What statistics are told -/

/-- A request comes from a handle's catalog. -/
theorem exists_request_of_requested {h : TrackerHandle} {request : TrackerRequest}
    (hrequested : run.requested step = some (h, request)) :
    ∃ index values, h.request index values = .ok request := by
  have hasked {line : Line} {target : String} {index : Nat} {arguments : List Argument}
      (hasked : run.asked line target index arguments = some (h, request)) :
      ∃ index values, h.request index values = .ok request := by
    obtain ⟨-, values, -, hrequest⟩ := request_of_asked hasked
    exact ⟨index, values, hrequest⟩
  cases step with
  | call line target operation arguments =>
    simp only [requested] at hrequested
    split at hrequested
    · exact hasked hrequested
    · cases hrequested
  | invoke line target index arguments => exact hasked hrequested
  | _ => cases hrequested

/-- What is told is told now. -/
theorem told_eq (run : Run) (id : TrackerId) (step : Step) :
    run.told id step = [] ∨ ∃ event, run.told id step = [event] ∧
      ∀ o now, event = .observe o now → now = run.world.now := by
  have hevents (request : TrackerRequest) : request.events run.world.now = [] ∨
      ∃ event, request.events run.world.now = [event] ∧
        ∀ o now, event = .observe o now → now = run.world.now := by
    cases request with
    | chooseName name =>
      cases name with
      | none => exact .inl rfl
      | some name => exact .inr ⟨.rename name, rfl, fun _ _ h => by cases h⟩
    | start => exact .inr ⟨.start _, rfl, fun _ _ h => by cases h⟩
    | stop => exact .inr ⟨.stop _, rfl, fun _ _ h => by cases h⟩
    | observe o =>
      refine .inr ⟨.observe o _, rfl, ?_⟩
      rintro o' now ⟨⟩
      rfl
  by_cases hstop : step = .stopTrackers
  · subst hstop
    exact .inr ⟨.stop _, rfl, fun _ _ h => by cases h⟩
  · cases hrequested : run.requested step with
    | none => exact .inl (told_of_not_requested hrequested hstop)
    | some requested =>
      rw [told_of_requested hrequested]
      split
      · exact hevents requested.2
      · exact .inl rfl

/-- Statistics that are not of times are told of points of their kind only. -/
theorem isSome_amount?_of_told (h : run.Consistent) (hs : run.world.statistics[id]? = some s)
    (hkind : s.kind ≠ .time) {o : Observation} {now : Instant}
    (hmem : .observe o now ∈ run.told id step) (timer : Option Instant) (later : Instant) :
    (s.kind.amount? timer o later).isSome = true := by
  rcases perform_cases h step with
    ⟨name, handle, request, hrequested, hhandle, -⟩ | ⟨rfl, -⟩ | ⟨hrequested, hstop, -⟩
  · rw [told_of_requested hrequested] at hmem
    split at hmem
    · rename_i hfed
      obtain ⟨s', hs', hsame, -⟩ := h.held name handle id hhandle hfed
      obtain rfl := Option.some.inj (hs.symm.trans hs')
      obtain ⟨index, values, hrequest⟩ := exists_request_of_requested hrequested
      rw [hsame] at hkind ⊢
      cases request with
      | observe o' =>
        simp only [TrackerRequest.events, List.mem_singleton, TrackerEvent.observe.injEq] at hmem
        obtain ⟨rfl, -⟩ := hmem
        exact TrackerHandle.isSome_amount?_of_request hrequest hkind timer later
      | chooseName name => cases name <;> simp [TrackerRequest.events] at hmem
      | start | stop => simp [TrackerRequest.events] at hmem
    · cases hmem
  · simp [told] at hmem
  · rw [told_of_not_requested hrequested hstop] at hmem
    cases hmem

theorem isSome_amount?_of_timeline (h : run.Consistent)
    (hs : run.world.statistics[id]? = some s) (hkind : s.kind ≠ .time) {steps : List Step}
    {o : Observation} {now : Instant} (hmem : .observe o now ∈ run.timeline id steps)
    (timer : Option Instant) (later : Instant) :
    (s.kind.amount? timer o later).isSome = true := by
  induction steps generalizing run s with
  | nil => cases hmem
  | cons step steps ih =>
    rcases List.mem_append.mp hmem with hmem | hmem
    · exact isSome_amount?_of_told h hs hkind hmem timer later
    · obtain ⟨s', hs', hsame, -⟩ := getElem?_perform h hs step
      rw [← hsame] at hkind ⊢
      exact ih (h.perform step) hs' hkind hmem

end Run

end JobScript
