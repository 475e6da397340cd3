import JobScript.Proofs.Run.Idle
import JobScript.Proofs.Statistics.Chronicle
import JobScript.Proofs.Statistics.Phase
import JobScript.Proofs.Typing.Judgement

/-!
# What Calls Ask of a Tracker

The operations of all kinds of trackers come down to four requests: choosing a name, starting,
stopping, and passing on an observation. A call that fails asks for nothing.

## Architecture

- `TrackerRequest`, `TrackerRequest.perform`: the requests and what a handle does with each
- `TrackerHandle.request`: the request behind an index and arguments
- `TrackerHandle.isSome_amount?_of_request`: observations are points of the handle's kind
- `execute_tracker`: a call on a tracker is its request, carried out
- `TrackerRequest.tracks_perform`: requests reach statistics and nothing else
- `TrackerRequest.perform_of_some`: on statistics that exist, a request is a matter of events
- `TrackerRequest.perform_of_none`, `TrackerHandle.start_of_none`: without statistics, only a start
  does something
-/

namespace JobScript

/-! ## Section 1: Requests -/

/-- What an operation asks of a tracker. -/
inductive TrackerRequest where
  | chooseName (name : Option String)
  | start
  | stop
  | observe (o : Observation)

/-- The handle and the shared state after a request. -/
def TrackerRequest.perform (request : TrackerRequest) (h : TrackerHandle) (job : Job) (w : World) :
    TrackerHandle × World :=
  match request with
  | .chooseName name => h.chooseName name w
  | .start => h.start job w
  | .stop => h.stop w
  | .observe o => (h, h.observe o w)

/-- What an operation asks for, given its arguments. -/
def TrackerOperation.request (op : TrackerOperation) (arguments : List Value) :
    Except Cause TrackerRequest :=
  let name := op.signature.name
  match op with
  | .addValue => do return .observe (.sample (← Arguments.int name arguments 0))
  | .increment => .ok (.observe .occurrence)
  | .incrementCategory => do return .observe (.inCategory (← Arguments.string name arguments 0))
  | .setDisplayName => do return .chooseName (← Arguments.text name arguments 0)
  | .startTimer => .ok (.observe .timerStarted)
  | .startTracker => .ok .start
  | .stopTimer => .ok (.observe .timerStopped)
  | .stopTracker => .ok .stop

/-- What a call by index asks of a tracker. -/
def TrackerHandle.request (h : TrackerHandle) (index : Nat) (arguments : List Value) :
    Except Cause TrackerRequest :=
  match (TrackerOperation.catalog h.kind)[index]? with
  | some op => op.request arguments
  | none => .error (.undefinedOperation (.tracker h.kind) index)

/-- The observation is one that the operation records. -/
def TrackerOperation.Records (op : TrackerOperation) (o : Observation) : Prop :=
  match op with
  | .increment => o = .occurrence
  | .addValue => ∃ value, o = .sample value
  | .incrementCategory => ∃ name, o = .inCategory name
  | .startTimer => o = .timerStarted
  | .stopTimer => o = .timerStopped
  | .setDisplayName | .startTracker | .stopTracker => False

theorem TrackerOperation.records_of_request {op : TrackerOperation} {arguments : List Value}
    {o : Observation} (h : op.request arguments = .ok (.observe o)) : op.Records o := by
  cases op with
  | addValue =>
    obtain ⟨value, -, hvalue⟩ := exists_of_bind_ok h
    cases hvalue
    exact ⟨value, rfl⟩
  | incrementCategory =>
    obtain ⟨name, -, hname⟩ := exists_of_bind_ok h
    cases hname
    exact ⟨name, rfl⟩
  | setDisplayName =>
    obtain ⟨name, -, hname⟩ := exists_of_bind_ok h
    cases hname
  | increment | startTimer | stopTimer =>
    cases h
    rfl
  | startTracker | stopTracker => cases h

/-- What an operation of a kind records is a point of that kind; only a timing needs more. -/
theorem TrackerOperation.isSome_amount?_of_records (op : TrackerOperation) {kind : TrackerKind}
    {o : Observation} (hrecords : op.Records o) (hmem : op ∈ catalog kind) (hkind : kind ≠ .time)
    (timer : Option Instant) (now : Instant) : (kind.amount? timer o now).isSome = true := by
  cases op with
  | increment =>
    obtain rfl := hrecords
    cases kind <;> first | rfl | simp [catalog] at hmem
  | addValue =>
    obtain ⟨value, rfl⟩ := hrecords
    cases kind <;> first | rfl | simp [catalog] at hmem
  | incrementCategory =>
    obtain ⟨name, rfl⟩ := hrecords
    cases kind <;> first | rfl | simp [catalog] at hmem
  | startTimer | stopTimer =>
    -- Only trackers of times have these
    cases kind <;> first | exact absurd rfl hkind | simp [catalog] at hmem
  | setDisplayName | startTracker | stopTracker => exact hrecords.elim

/-- An observation that a handle is asked to pass on is a point of its kind. -/
theorem TrackerHandle.isSome_amount?_of_request {h : TrackerHandle} {index : Nat}
    {arguments : List Value} {o : Observation}
    (hrequest : h.request index arguments = .ok (.observe o))
    (hkind : h.kind ≠ .time) (timer : Option Instant) (now : Instant) :
    (h.kind.amount? timer o now).isSome = true := by
  unfold request at hrequest
  cases hop : (TrackerOperation.catalog h.kind)[index]? with
  | none =>
    rw [hop] at hrequest
    cases hrequest
  | some op =>
    rw [hop] at hrequest
    have hrecords : op.Records o := TrackerOperation.records_of_request hrequest
    exact op.isSome_amount?_of_records hrecords (List.mem_of_getElem? hop) hkind timer now

/-! ## Section 2: Calls as requests -/

theorem TrackerOperation.run_eq (op : TrackerOperation) (receiver : TrackerHandle)
    (arguments : List Value) (job : Job) (w : World) :
    op.run receiver arguments job w =
      (op.request arguments).map fun request =>
        let done := request.perform receiver job w
        (done.1, done.2, .nothing) := by
  cases op with
  | addValue =>
    simp only [run, request]
    cases Arguments.int _ arguments 0 <;> rfl
  | incrementCategory =>
    simp only [run, request]
    cases Arguments.string _ arguments 0 <;> rfl
  | setDisplayName =>
    simp only [run, request]
    cases Arguments.text _ arguments 0 <;> rfl
  | increment | startTimer | startTracker | stopTimer | stopTracker => rfl

/-- A call on a tracker carries out what it asks for; one that asks for nothing changes nothing. -/
theorem execute_tracker (job : Job) (w : World) (h : TrackerHandle) (index : Nat)
    (arguments : List Value) :
    execute job w (.tracker h) index arguments =
      match h.request index arguments with
      | .ok request =>
        let done := request.perform h job w
        ⟨.tracker done.1, done.2, .ok .nothing⟩
      | .error cause => ⟨.tracker h, w, .error cause⟩ := by
  simp only [execute, dispatch, TrackerHandle.request]
  cases (TrackerOperation.catalog h.kind)[index]? with
  | none => rfl
  | some op =>
    simp only [TrackerOperation.run_eq]
    cases op.request arguments <;> rfl

/-! ## Section 3: Starting -/

namespace World

/-- Statistics that were just created are changed where they stand. -/
theorem putStatistics_append (w : World) (s changed : Statistics) :
    { w with statistics := w.statistics ++ [s] }.putStatistics w.statistics.length (changed, []) =
      { w with statistics := w.statistics ++ [changed] } := by
  simp [putStatistics]

end World

namespace TrackerHandle

variable {h : TrackerHandle} {w : World}

@[simp] theorem kind_newStatistics (h : TrackerHandle) (job : Job) :
    (h.newStatistics job).kind = h.kind := by
  unfold newStatistics
  dsimp only
  split
  · rw [Statistics.listen, Statistics.kind_mapCore, Statistics.kind_ofContext]
  · rw [Statistics.kind_ofContext]

@[simp] theorem phase_newStatistics (h : TrackerHandle) (job : Job) :
    (h.newStatistics job).core.phase = .notStarted := by
  unfold newStatistics
  dsimp only
  split
  · rw [Statistics.listen, Statistics.core_mapCore, Statistics.core_ofContext]
    rfl
  · rw [Statistics.core_ofContext]
    rfl

/-- The first start creates running statistics under the next number. -/
theorem start_of_none (job : Job) (hnone : h.statistics = none) :
    h.start job w =
      ({ h with statistics := some w.statistics.length, collecting := true },
        { w with statistics := w.statistics ++ [(h.newStatistics job).start w.now] }) := by
  -- The new statistics are looked up where they were just appended
  have hrunning : ((h.newStatistics job).start w.now).isRunning = true := by
    rw [Statistics.isRunning_iff, Statistics.phase_start, phase_newStatistics, if_pos rfl]
  have hget : (w.statistics ++ [h.newStatistics job])[w.statistics.length]? =
      some (h.newStatistics job) := by simp
  simp only [start, withStatistics, hnone, hget, hrunning, World.putStatistics_append]

/-- A later start finds the statistics that are there. -/
theorem start_of_some {id : TrackerId} {s : Statistics} (job : Job)
    (hid : h.statistics = some id) (hs : w.statistics[id]? = some s) :
    h.start job w =
      ({ h with collecting := (s.start w.now).isRunning },
        w.putStatistics id (s.start w.now, [])) := by
  simp only [start, withStatistics, hid, hs]

end TrackerHandle

/-! ## Section 4: Requests as events -/

namespace TrackerRequest

/-- The events that a request means for statistics. -/
def events (request : TrackerRequest) (now : Instant) : List TrackerEvent :=
  match request with
  | .chooseName name => name.toList.map .rename
  | .start => [.start now]
  | .stop => [.stop now]
  | .observe o => [.observe o now]

/-- The events that reach the statistics: a handle that is not collecting holds observations
back. -/
def passed (request : TrackerRequest) (collecting : Bool) (now : Instant) : List TrackerEvent :=
  match request, collecting with
  | .observe _, false => []
  | request, _ => request.events now

variable (request : TrackerRequest) {h : TrackerHandle} (job : Job) {w : World} {id : TrackerId}
  {s : Statistics}

/-- A handle keeps its kind. -/
theorem kind_perform (request : TrackerRequest) (h : TrackerHandle) (job : Job) (w : World) :
    (request.perform h job w).1.kind = h.kind := by
  cases request with
  | chooseName name => rfl
  | start =>
    simp only [perform, TrackerHandle.start, TrackerHandle.withStatistics]
    cases h.statistics with
    | none => dsimp only; split <;> rfl
    | some id => dsimp only; split <;> rfl
  | stop => rfl
  | observe o => rfl

/-- Requests reach statistics and nothing else. -/
theorem tracks_perform (request : TrackerRequest) (h : TrackerHandle) (job : Job) (w : World) :
    w.Tracks (request.perform h job w).2 := by
  cases request with
  | chooseName name =>
    simp only [perform, TrackerHandle.chooseName]
    split
    · split
      · exact ⟨_, _, rfl⟩
      · exact .refl w
    · exact .refl w
  | start =>
    simp only [perform, TrackerHandle.start, TrackerHandle.withStatistics]
    cases h.statistics with
    | none => dsimp only; split <;> exact ⟨_, _, rfl⟩
    | some id => dsimp only; split <;> exact ⟨_, _, rfl⟩
  | stop =>
    simp only [perform, TrackerHandle.stop]
    cases h.statistics with
    | none => exact .refl w
    | some id => exact w.tracks_stopStatistics id
  | observe o =>
    simp only [perform, TrackerHandle.observe]
    split
    · cases h.statistics with
      | none => exact .refl w
      | some id =>
        simp only [Option.elim, World.observe]
        split
        · exact ⟨_, _, rfl⟩
        · exact .refl w
    · exact .refl w

/-- Requests take no time. -/
theorem now_perform (request : TrackerRequest) (h : TrackerHandle) (job : Job) (w : World) :
    (request.perform h job w).2.now = w.now :=
  (request.tracks_perform h job w).now

/-- A handle with statistics keeps them, and the events of the request reach them. -/
theorem perform_of_some (hid : h.statistics = some id) (hs : w.statistics[id]? = some s) :
    (request.perform h job w).1.statistics = some id ∧ ∃ points,
      (request.perform h job w).2 =
        { w with
          statistics := w.statistics.set id (s.after (request.passed h.collecting w.now))
          points } := by
  -- Putting back what was there changes nothing
  have hsame : { w with statistics := w.statistics.set id s } = w := by
    obtain ⟨hlt, hget⟩ := List.getElem?_eq_some_iff.mp hs
    rw [← hget, List.set_getElem_self]
  cases request with
  | chooseName name =>
    refine ⟨hid, ?_⟩
    cases name with
    | none =>
      simp only [perform, TrackerHandle.chooseName, hid]
      exact ⟨w.points, hsame.symm⟩
    | some name =>
      simp only [perform, TrackerHandle.chooseName, hid, hs]
      exact ⟨_, rfl⟩
  | start =>
    simp only [perform, TrackerHandle.start_of_some job hid hs]
    exact ⟨hid, _, rfl⟩
  | stop =>
    simp only [perform, TrackerHandle.stop, hid, Option.elim, World.stopStatistics, hs, true_and]
    exact ⟨_, rfl⟩
  | observe o =>
    refine ⟨hid, ?_⟩
    cases hcollecting : h.collecting with
    | false =>
      simp only [perform, TrackerHandle.observe, hcollecting, Bool.false_eq_true, if_false]
      exact ⟨w.points, hsame.symm⟩
    | true =>
      simp only [perform, TrackerHandle.observe, hcollecting, if_true, hid, Option.elim,
        World.observe, hs]
      exact ⟨_, rfl⟩

/-- A handle without statistics has nothing to pass a request to, unless it is to start. -/
theorem perform_of_none {request : TrackerRequest} (hnone : h.statistics = none)
    (hstart : request ≠ .start) :
    (request.perform h job w).1.statistics = none ∧ (request.perform h job w).2 = w := by
  cases request with
  | chooseName name => simp only [perform, TrackerHandle.chooseName, hnone, and_self]
  | start => exact absurd rfl hstart
  | stop => simp only [perform, TrackerHandle.stop, hnone, Option.elim, and_self]
  | observe o =>
    simp only [perform, TrackerHandle.observe, hnone, Option.elim, ite_self, and_self]

/-- A handle collects after a request if its statistics are running then, provided it was so
before. -/
theorem collecting_perform (hid : h.statistics = some id) (hs : w.statistics[id]? = some s)
    (hcollecting : s.isRunning = true → h.collecting = true)
    (hrunning : (s.after (request.passed h.collecting w.now)).isRunning = true) :
    (request.perform h job w).1.collecting = true := by
  cases request with
  | chooseName name =>
    apply hcollecting
    cases name with
    | none => exact hrunning
    | some name =>
      rw [Statistics.isRunning_iff] at hrunning ⊢
      exact (s.phase_rename name).symm.trans hrunning
  | start =>
    simp only [perform, TrackerHandle.start_of_some job hid hs]
    exact hrunning
  | stop =>
    rw [Statistics.isRunning_iff] at hrunning
    change (s.stop w.now).1.core.phase = .running at hrunning
    rw [Statistics.phase_stop] at hrunning
    split at hrunning
    · cases hrunning
    · contradiction
  | observe o =>
    show h.collecting = true
    apply hcollecting
    rw [Statistics.isRunning_iff] at hrunning ⊢
    -- Observations do not change the phase, held back or not
    cases hpass : h.collecting with
    | false =>
      rw [hpass] at hrunning
      exact hrunning
    | true =>
      rw [hpass] at hrunning
      exact (s.phase_observe w.now o).symm.trans hrunning

end TrackerRequest

end JobScript
