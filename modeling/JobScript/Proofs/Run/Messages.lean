import JobScript.Proofs.Run.Order
import JobScript.Proofs.Trackers.Request
import Mathlib.Control.Basic

/-!
# Operations and Messages

Messages go from a script to its job and never come back: an operation does the same whatever was
said before it.

## Architecture

- `World.quiet`, `Outcome.quiet`: what is left when nothing was said
- `TrackerRequest.perform_quiet`, `ScriptOperation.run_quiet` and its siblings: operations that reach
  the shared state
- `execute_quiet`: all operations
-/

namespace JobScript

/-! ## Section 1: The shared state -/

namespace World

/-- The shared state as if nothing had been said. -/
def quiet (w : World) : World :=
  { w with messages := [] }

@[simp]
theorem quiet_quiet (w : World) : w.quiet.quiet = w.quiet :=
  rfl

theorem observe_quiet (w : World) (id : TrackerId) (o : Observation) :
    w.quiet.observe id o = (w.observe id o).quiet := by
  have hsame : w.quiet.statistics = w.statistics := rfl
  unfold observe
  rw [hsame]
  split <;> rfl

theorem stopStatistics_quiet (w : World) (id : TrackerId) :
    w.quiet.stopStatistics id = (w.stopStatistics id).quiet := by
  have hsame : w.quiet.statistics = w.statistics := rfl
  unfold stopStatistics
  rw [hsame]
  split <;> rfl

theorem closeConnection_quiet (w : World) (id : Pop.ConnectionId) :
    w.quiet.closeConnection id = (w.closeConnection id).quiet :=
  rfl

theorem foldl_quiet {act : World → Nat → World}
    (hact : ∀ (w : World) id, act w.quiet id = (act w id).quiet) (ids : List Nat) (w : World) :
    ids.foldl act w.quiet = (ids.foldl act w).quiet := by
  induction ids generalizing w with
  | nil => rfl
  | cons id ids ih => rw [List.foldl_cons, List.foldl_cons, hact, ih]

end World

namespace Outcome

variable {σ τ : Type}

/-- The outcome as if nothing had been said. -/
def quiet (outcome : Outcome σ) : Outcome σ :=
  { outcome with world := outcome.world.quiet }

theorem quiet_map (outcome : Outcome σ) (f : σ → τ) :
    (outcome.map f).quiet = outcome.quiet.map f :=
  rfl

end Outcome

/-! ## Section 2: Operations that reach the shared state -/

/-- A request does the same whatever was said. -/
theorem TrackerRequest.perform_quiet (request : TrackerRequest) (h : TrackerHandle) (job : Job)
    (w : World) :
    request.perform h job w.quiet =
      ((request.perform h job w).1, (request.perform h job w).2.quiet) := by
  have hsame : w.quiet.statistics = w.statistics := rfl
  cases request with
  | chooseName name =>
    simp only [perform, TrackerHandle.chooseName, hsame]
    congr 1
    split
    · split <;> rfl
    · rfl
  | start =>
    -- A handle without statistics gets new ones first
    have hwith : h.withStatistics job w.quiet = ((h.withStatistics job w).1,
        (h.withStatistics job w).2.1, (h.withStatistics job w).2.2.quiet) := by
      unfold TrackerHandle.withStatistics
      split <;> rfl
    simp only [perform, TrackerHandle.start, hwith]
    generalize h.withStatistics job w = started
    cases hs : started.2.2.statistics[started.1]? with
    | none => simp [World.quiet, hs]
    | some s => simp [World.quiet, hs, World.putStatistics]
  | stop =>
    simp only [perform, TrackerHandle.stop]
    cases h.statistics with
    | none => rfl
    | some id => exact congrArg (Prod.mk _) (w.stopStatistics_quiet id)
  | observe o =>
    simp only [perform, TrackerHandle.observe]
    cases h.statistics with
    | none => split <;> rfl
    | some id =>
      split
      · exact congrArg (Prod.mk _) (w.observe_quiet id o)
      · rfl

/-- What is done with nothing said. -/
def quietly {σ : Type} (done : σ × World × Result) : σ × World × Result :=
  (done.1, done.2.1.quiet, done.2.2)

theorem Outcome.quiet_ofExcept {σ : Type} (target : σ) (w : World)
    {done done' : Except Cause (σ × World × Result)} (h : quietly <$> done = quietly <$> done') :
    (ofExcept target w.quiet done).quiet = (ofExcept target w done').quiet := by
  cases done with
  | error cause =>
    cases done' with
    | error cause' =>
      obtain rfl := Except.error.inj h
      rfl
    | ok done' => cases h
  | ok done =>
    cases done' with
    | error cause' => cases h
    | ok done' =>
      -- What is done may differ in what was said, and the outcome leaves that out
      obtain ⟨target, w, result⟩ := done
      obtain ⟨target', w', result'⟩ := done'
      have hsame := Except.ok.inj h
      simp only [quietly, Prod.mk.injEq] at hsame
      obtain ⟨rfl, hworld, rfl⟩ := hsame
      simp only [ofExcept, quiet, hworld]

theorem Outcome.quiet_ofTarget {σ : Type} (target : σ) (w : World)
    (done : Except Cause (σ × Result)) :
    (ofTarget target w.quiet done).quiet = (ofTarget target w done).quiet := by
  cases done <;> rfl

theorem ScriptOperation.run_quiet (op : ScriptOperation) (source : Random.Source)
    (arguments : List Value) (job : Job) (w : World) :
    quietly <$> op.run source arguments job w.quiet = quietly <$> op.run source arguments job w := by
  cases op with
  | exit | exitWithError | clientNumber | threadNumber | shouldStop | shouldNotStop => rfl
  | argumentOr | booleanArgument | intArgument =>
    simp only [run, map_bind]
    congr 1
    funext found
    -- The argument of the job, or else the one of the call
    split
    · rfl
    · simp only [map_bind]
      rfl
  | _ =>
    simp only [run, map_bind]
    rfl

theorem RateLimiterOperation.run_quiet (op : RateLimiterOperation) (limiter : RateLimiter)
    (arguments : List Value) (w : World) :
    quietly <$> op.run limiter arguments w.quiet = quietly <$> op.run limiter arguments w := by
  cases op with
  | setDuration =>
    simp only [run, map_bind]
    rfl
  | duration | startTimer | sleepForRemainingTime => rfl

theorem PopOperation.run_quiet (op : PopOperation) (s : PopSession) (arguments : List Value)
    (w : World) : (op.run s arguments w.quiet).quiet = (op.run s arguments w).quiet := by
  have hwith {α : Type} (read : Except Cause α) {go go' : α → Outcome PopSession}
      (hgo : ∀ a, (go a).quiet = (go' a).quiet) :
      (s.withArguments w.quiet read go).quiet = (s.withArguments w read go').quiet := by
    cases read with
    | ok a => exact hgo a
    | error cause => rfl
  cases op with
  | connect | connectSecurely | authenticate | delete | retrieve | top => exact hwith _ fun _ => rfl
  | disconnect | failureReason | list | noop | stat => rfl

/-! ## Section 3: All operations -/

theorem quiet_dispatch {σ τ ω : Type} {t : ValueType} {catalog : List ω} {index : Nat} {target : σ}
    {w : World} {run run' : ω → Outcome σ} {f : σ → τ}
    (h : ∀ op, (run op).quiet = (run' op).quiet) :
    ((dispatch t catalog index target w.quiet run).map f).quiet =
      ((dispatch t catalog index target w run').map f).quiet := by
  rw [Outcome.quiet_map, Outcome.quiet_map]
  unfold dispatch
  cases catalog[index]? with
  | some op => exact congrArg _ (h op)
  | none => rfl

/-- **An operation does the same whatever was said before it.** -/
theorem execute_quiet (job : Job) (w : World) (target : Value) (index : Nat)
    (arguments : List Value) :
    (execute job w.quiet target index arguments).quiet =
      (execute job w target index arguments).quiet := by
  cases target with
  | tracker h =>
    rw [execute_tracker, execute_tracker]
    cases h.request index arguments with
    | ok request =>
      simp only [request.perform_quiet h job w]
      rfl
    | error cause => rfl
  | popConnection s => exact quiet_dispatch fun op => op.run_quiet s arguments w
  | script source =>
    exact quiet_dispatch fun op =>
      Outcome.quiet_ofExcept source w (op.run_quiet source arguments job w)
  | rateLimiter limiter =>
    exact quiet_dispatch fun op => Outcome.quiet_ofExcept limiter w (op.run_quiet limiter arguments w)
  | _ => exact quiet_dispatch fun op => Outcome.quiet_ofTarget _ w _

end JobScript
