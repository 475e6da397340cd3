import JobScript.Proofs.Typing.Judgement
import JobScript.Script

/-!
# What Steps Do to a Run

Declarations, calls and assignments, read backwards: what must have been the case when one of them
succeeded, and what the run is afterwards.

## Architecture

- `Run.declare_ok`: a new variable at the end
- `Run.invoke_of_evaluate_error`, `Run.invoke_of_undeclared`: calls that are not carried out
- `Run.settled`, `Run.invoke_settled`: a call is its operation, with the outcome settled
- `Run.invoke_eq`, `Run.invoke_cases`: the target and the shared state are those of the operation
- `Run.assign_ok`: the target is replaced, and what it let go of is retired
- `Run.perform_declare`, `Run.perform_call`: declarations and calls as steps
- `Run.becomes_perform`: all that a step can make of a run
-/

namespace JobScript.Run

variable {run run' : Run} {line : Line}

/-! ## Section 1: Declarations -/

/-- A declaration that succeeds adds a variable that was not there, and draws on the random
sources at most. -/
theorem declare_ok {name : String} {t : ValueType} (h : run.declare line name t = .ok run') :
    run.get? name = none ∧ ∃ source issued,
      run' = { run with
        «variables» := run.variables ++ [(name, Value.declared t name source)]
        world := { run.world with issued } } := by
  unfold declare at h
  split at h
  · cases h
  · split at h
    · cases h
    · rename_i hdeclared
      obtain rfl := Except.ok.inj h
      -- Only values that draw use up a random source
      refine ⟨Option.not_isSome_iff_eq_none.mp hdeclared,
        (run.world.nextSource run.job.settings.runSeed).1, ?_⟩
      split
      · exact ⟨run.world.issued + 1, rfl⟩
      · exact ⟨run.world.issued, rfl⟩

/-! ## Section 2: Calls -/

variable {target : String} {arguments : List Argument} {values : List Value} {before : Value}

/-- A call whose arguments cannot be evaluated is not carried out. -/
theorem invoke_of_evaluate_error {failure : Failure} (target : String) (index : Nat)
    (hvalues : run.evaluate line arguments = .error failure) :
    run.invoke line target index arguments = (run, .error failure) := by
  simp only [invoke, hvalues]

/-- A call on a variable that was never declared is not carried out. -/
theorem invoke_of_undeclared (index : Nat) (hvalues : run.evaluate line arguments = .ok values)
    (hnone : run.get? target = none) :
    run.invoke line target index arguments =
      (run, .error ⟨.undeclaredVariable target, some line⟩) := by
  simp only [invoke, hvalues, hnone]

/-- A call whose arguments cannot be evaluated, or whose target is not declared, changes
nothing. -/
theorem invoke_eq_self {index : Nat}
    (h : (∃ failure, run.evaluate line arguments = .error failure) ∨ run.get? target = none) :
    (run.invoke line target index arguments).1 = run := by
  cases hvalues : run.evaluate line arguments with
  | error failure => rw [invoke_of_evaluate_error target index hvalues]
  | ok values =>
    rcases h with ⟨failure, herror⟩ | hnone
    · cases herror.symm.trans hvalues
    · rw [invoke_of_undeclared index hvalues hnone]

/-- What a call gives when its operation has come to an outcome, and the shared state then: a new
list takes the next random source of the run. -/
def settled (job : Job) (line : Line) (outcome : Outcome Value) :
    Except Failure (Option Value) × World :=
  match outcome.result with
  | .ok result => (.ok (result.settle job outcome.world).1, (result.settle job outcome.world).2)
  | .error cause => (.error ⟨cause, some line⟩, outcome.world)

/-- Apart from the messages of a trace, a call is its operation with the outcome settled. -/
theorem invoke_settled (index : Nat) (hvalues : run.evaluate line arguments = .ok values)
    (hbefore : run.get? target = some before) :
    let outcome := execute run.job run.world before index values
    ∃ messages, run.invoke line target index arguments =
      ({ run.set target outcome.target with
          world := { (settled run.job line outcome).2 with messages } },
        (settled run.job line outcome).1) := by
  simp only [invoke, hvalues, hbefore, settled]
  cases (execute run.job run.world before index values).result with
  | ok result =>
    dsimp only
    split <;> exact ⟨_, rfl⟩
  | error cause =>
    dsimp only
    split <;> exact ⟨_, rfl⟩

/-- After a call, the target and the shared state are those of the operation, but for the messages
of a trace and the random source of a new list. -/
theorem invoke_eq (index : Nat) (hvalues : run.evaluate line arguments = .ok values)
    (hbefore : run.get? target = some before) :
    ∃ issued messages, (run.invoke line target index arguments).1 =
      { run.set target (execute run.job run.world before index values).target with
        world :=
          { (execute run.job run.world before index values).world with issued, messages } } := by
  have hsettled (outcome : Outcome Value) :
      ∃ issued, (settled run.job line outcome).2 = { outcome.world with issued } := by
    unfold settled
    split
    · rename_i result _
      cases result <;> exact ⟨_, rfl⟩
    · exact ⟨outcome.world.issued, rfl⟩
  obtain ⟨messages, hinvoke⟩ := invoke_settled index hvalues hbefore
  obtain ⟨issued, hissued⟩ := hsettled (execute run.job run.world before index values)
  rw [hinvoke, hissued]
  exact ⟨issued, messages, rfl⟩

/-- A call changes nothing, or makes of target and shared state what its operation makes of them. -/
theorem invoke_cases (run : Run) (line : Line) (target : String) (index : Nat)
    (arguments : List Argument) :
    (run.invoke line target index arguments).1 = run ∨
      ∃ values before issued messages, run.get? target = some before ∧
        (run.invoke line target index arguments).1 =
          { run.set target (execute run.job run.world before index values).target with
            world := { (execute run.job run.world before index values).world with
              issued, messages } } := by
  cases hvalues : run.evaluate line arguments with
  | error failure => exact .inl (invoke_eq_self (.inl ⟨failure, hvalues⟩))
  | ok values =>
    cases hbefore : run.get? target with
    | none => exact .inl (invoke_eq_self (.inr hbefore))
    | some before =>
      obtain ⟨issued, messages, hinvoke⟩ := invoke_eq index hvalues hbefore
      exact .inr ⟨values, before, issued, messages, rfl, hinvoke⟩

/-- What a call gives is what its operation gives, as a value. -/
theorem invoke_result (index : Nat) (hvalues : run.evaluate line arguments = .ok values)
    (hbefore : run.get? target = some before) :
    (run.invoke line target index arguments).2 =
      match (execute run.job run.world before index values).result with
      | .ok result =>
        .ok (result.settle run.job (execute run.job run.world before index values).world).1
      | .error cause => .error ⟨cause, some line⟩ := by
  obtain ⟨messages, hinvoke⟩ := invoke_settled index hvalues hbefore
  rw [hinvoke]
  unfold settled
  cases (execute run.job run.world before index values).result <;> rfl

/-! ## Section 3: Assignments -/

/-- What a variable that fed the one no longer feeds when it feeds the other. -/
def abandoned (fed feeds : Option TrackerId) : List TrackerId :=
  fed.toList.filter fun id => feeds ≠ some id

theorem mem_abandoned {fed feeds : Option TrackerId} {id : TrackerId} :
    id ∈ abandoned fed feeds ↔ fed = some id ∧ feeds ≠ some id := by
  rw [abandoned, List.mem_filter, Option.mem_toList, decide_eq_true_iff]

/-- An assignment that succeeds replaces the target, and retires the statistics that the target no
longer feeds. -/
theorem assign_ok {source : Argument} (h : run.assign line target source = .ok run') :
    ∃ value before after, run.argument line source = .ok value ∧
      run.get? target = some before ∧ before.assign value = .ok after ∧
      run' = { run.set target after with
        retired := run.retired ++ abandoned (fedBy before) (fedBy after) } := by
  obtain ⟨value, hvalue, h⟩ := exists_of_bind_ok h
  cases hbefore : run.get? target with
  | none =>
    rw [hbefore] at h
    cases h
  | some before =>
    simp only [hbefore] at h
    cases hafter : before.assign value with
    | error cause =>
      rw [hafter] at h
      cases h
    | ok after =>
      rw [hafter] at h
      obtain rfl := Except.ok.inj h
      refine ⟨value, before, after, hvalue, rfl, hafter, ?_⟩
      -- The three branches of the program are one list that is appended
      cases hfed : fedBy before with
      | none => simp [abandoned]
      | some old => by_cases hsame : fedBy after = some old <;> simp [abandoned, hsame]

/-! ## Section 4: Steps -/

/-- A declaration is not performed, or adds a variable of the type that its keyword names. -/
theorem perform_declare (run : Run) (line : Line) (name keyword : String) :
    (∃ d, run.perform (.declare line name keyword) = (run, .error (.diagnostic d))) ∨
      ∃ t run', ValueType.ofKeyword? keyword = some t ∧ run.declare line name t = .ok run' ∧
        run.perform (.declare line name keyword) = (run', .ok none) := by
  simp only [perform, declareWritten]
  cases ht : ValueType.ofKeyword? keyword with
  | none => exact .inl ⟨_, rfl⟩
  | some t =>
    cases hdeclare : run.declare line name t with
    | error d => exact .inl ⟨d, by simp only [hdeclare]⟩
    | ok run' => exact .inr ⟨t, run', rfl, hdeclare, by simp only [hdeclare]⟩

/-- A call by name is not performed, or is a call by the index that it resolves to. -/
theorem perform_call (run : Run) (line : Line) (target operation : String)
    (arguments : List Argument) :
    (∃ d, run.perform (.call line target operation arguments) = (run, .error (.diagnostic d))) ∨
      ∃ index, run.resolveWritten line target operation arguments = .ok index ∧
        run.perform (.call line target operation arguments) =
          run.perform (.invoke line target index arguments) := by
  simp only [perform]
  cases run.resolveWritten line target operation arguments with
  | error d => exact .inl ⟨d, rfl⟩
  | ok index => exact .inr ⟨index, rfl, rfl⟩

/-- What a step can make of a run: steps that fail leave it as it is, but for calls, which may have
changed it before they failed. -/
inductive Becomes (run : Run) : Run → Prop where
  | unchanged : run.Becomes run
  | declared {line : Line} {name : String} {t : ValueType} {run' : Run}
      (hdeclare : run.declare line name t = .ok run') : run.Becomes run'
  | invoked (line : Line) (target : String) (index : Nat) (arguments : List Argument) :
      run.Becomes (run.invoke line target index arguments).1
  | assigned {line : Line} {target : String} {source : Argument} {run' : Run}
      (hassign : run.assign line target source = .ok run') : run.Becomes run'
  | waited (span : Span) : run.Becomes { run with world := run.world.sleep span }
  | stopRequested (requested : Bool) :
      run.Becomes { run with world := { run.world with stopRequested := requested } }
  | trackersStopped : run.Becomes run.stopTrackers
  | sessionsReleased : run.Becomes run.releaseSessions

theorem becomes_perform (run : Run) (step : Step) : run.Becomes (run.perform step).1 := by
  cases step with
  | declare line name keyword =>
    rcases run.perform_declare line name keyword with
      ⟨d, hrefused⟩ | ⟨t, run', -, hdeclare, hperformed⟩
    · rw [hrefused]
      exact .unchanged
    · rw [hperformed]
      exact .declared hdeclare
  | call line target operation arguments =>
    rcases run.perform_call line target operation arguments with
      ⟨d, hrefused⟩ | ⟨index, -, hperformed⟩
    · rw [hrefused]
      exact .unchanged
    · rw [hperformed]
      exact .invoked line target index arguments
  | invoke line target index arguments => exact .invoked line target index arguments
  | assign line target source =>
    simp only [perform]
    split
    · rename_i run' hassign
      exact .assigned hassign
    · exact .unchanged
  | wait span => exact .waited span
  | requestStop requested => exact .stopRequested requested
  | stopTrackers => exact .trackersStopped
  | releaseSessions => exact .sessionsReleased

end JobScript.Run
