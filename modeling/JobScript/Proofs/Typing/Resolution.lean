import JobScript.Proofs.Run.Effects
import JobScript.Proofs.Run.Variables
import JobScript.Proofs.Typing.Execution

/-!
# Calls Are Resolved Once

The index that resolution gives for a call is good for the rest of the run. Declared variables
keep their types through every step, so the index stays within the catalog it was taken from, and
a call with it is sound as long as its arguments have the types it was resolved for.

## Architecture

- `Run.typeOf?_performAll`: variables keep their types
- `Run.resolve_ok`: what an index means at the moment of resolution
- `Run.evaluate_of_argumentTypes`: arguments that have types have values of these types
- `Run.invoke_sound`: a call that fits its signature
- `Run.resolved_call_stays_sound`: resolution now, the call at any later moment
-/

namespace JobScript

namespace Run

/-! ## Section 1: Variables keep their types -/

variable {run run' : Run} {name : String} {t : ValueType}

/-- A value of the same type behind a name leaves the types of all variables. -/
theorem typeOf?_set {target : String} {before after : Value} (hget : run.get? target = some before)
    (htype : after.type = before.type) :
    (run.set target after).typeOf? name = run.typeOf? name := by
  rw [typeOf?, get?_set]
  split
  · rename_i hname
    subst hname
    rw [typeOf?, hget]
    exact congrArg some htype
  · rfl

theorem typeOf?_declare {line : Line} {declared : String} {type : ValueType}
    (hdeclare : run.declare line declared type = .ok run') (h : run.typeOf? name = some t) :
    run'.typeOf? name = some t := by
  obtain ⟨-, source, issued, rfl⟩ := declare_ok hdeclare
  obtain ⟨v, hv, htype⟩ := Option.map_eq_some_iff.mp h
  -- A declared name is found before the new one
  have hlookup : run.variables.lookup name = some v := hv
  simp only [typeOf?, get?, List.lookup_append, hlookup, Option.some_or]
  exact congrArg some htype

theorem typeOf?_invoke (line : Line) (target : String) (index : Nat) (arguments : List Argument) :
    (run.invoke line target index arguments).1.typeOf? name = run.typeOf? name := by
  obtain hsame | ⟨values, before, issued, messages, hbefore, hinvoke⟩ :=
    run.invoke_cases line target index arguments
  · rw [hsame]
  · rw [hinvoke]
    exact typeOf?_set hbefore (type_target_execute run.job run.world before index values)

theorem typeOf?_assign {line : Line} {target : String} {source : Argument}
    (hassign : run.assign line target source = .ok run') :
    run'.typeOf? name = run.typeOf? name := by
  obtain ⟨value, before, after, -, hbefore, hafter, rfl⟩ := assign_ok hassign
  exact typeOf?_set hbefore (Value.type_assign hafter)

theorem typeOf?_stopTrackers : run.stopTrackers.typeOf? name = run.typeOf? name :=
  map_lookup_sweep type_stopVariable run.variables run.world

theorem typeOf?_releaseSessions : run.releaseSessions.typeOf? name = run.typeOf? name :=
  map_lookup_sweep type_releaseVariable run.variables run.world

/-- No step removes a variable or changes its type. -/
theorem typeOf?_of_becomes (hbecomes : run.Becomes run') (h : run.typeOf? name = some t) :
    run'.typeOf? name = some t := by
  cases hbecomes with
  | unchanged => exact h
  | declared hdeclare => exact typeOf?_declare hdeclare h
  | invoked line target index arguments =>
    exact (typeOf?_invoke line target index arguments).trans h
  | assigned hassign => exact (typeOf?_assign hassign).trans h
  | waited span => exact h
  | stopRequested requested => exact h
  | trackersStopped => exact typeOf?_stopTrackers.trans h
  | sessionsReleased => exact typeOf?_releaseSessions.trans h

theorem typeOf?_performAll (steps : List Step) (h : run.typeOf? name = some t) :
    (run.performAll steps).typeOf? name = some t := by
  induction steps generalizing run with
  | nil => exact h
  | cons step steps ih => exact ih (typeOf?_of_becomes (becomes_perform run step) h)

/-! ## Section 2: Resolution -/

/-- A signature that accepts a call stands at the index that the call resolves to. -/
theorem signature?_of_resolve? {operation : String} {types : List ValueType} {index : Nat}
    (h : Catalog.resolve? t operation types = some index) :
    ∃ s, Catalog.signature? t index = some s ∧ s.accepts operation types = true := by
  obtain ⟨hlt, haccepts, -⟩ := List.findIdx?_eq_some_iff_getElem.mp h
  exact ⟨_, List.getElem?_eq_getElem hlt, haccepts⟩

/-- **What an index means**: the target is declared, and the signature at the index has the name
and the parameter types of the call. -/
theorem resolve_ok {line : Line} {target operation : String} {types : List ValueType} {index : Nat}
    (h : run.resolve line target operation types = .ok index) :
    ∃ t s, run.typeOf? target = some t ∧ Catalog.signature? t index = some s ∧
      s.isNamed operation = true ∧ s.parameters = types := by
  unfold resolve at h
  split at h
  · cases h
  · rename_i t htarget
    unfold Resolution.resolveCall at h
    split at h
    · rename_i found hfound
      obtain rfl := Except.ok.inj h
      obtain ⟨s, hs, haccepts⟩ := signature?_of_resolve? hfound
      exact ⟨t, s, htarget, hs, s.isNamed_of_accepts haccepts, s.parameters_of_accepts haccepts⟩
    · split at h <;> cases h

/-! ## Section 3: Arguments -/

theorem argument_of_argumentType {line : Line} {a : Argument}
    (h : run.argumentType line a = .ok t) :
    ∃ v, run.argument line a = .ok v ∧ v.type = t := by
  cases a with
  | literal l =>
    obtain rfl := Except.ok.inj h
    refine ⟨l.value, rfl, ?_⟩
    cases l <;> rfl
  | «variable» name =>
    simp only [argumentType, typeOf?] at h
    cases hget : run.get? name with
    | none =>
      rw [hget] at h
      cases h
    | some v =>
      rw [hget] at h
      refine ⟨v, by simp only [argument, hget], ?_⟩
      exact Except.ok.inj h

/-- Arguments that have types are evaluated, to values of these types. -/
theorem evaluate_of_argumentTypes {line : Line} {arguments : List Argument}
    {types : List ValueType} (h : run.argumentTypes line arguments = .ok types) :
    ∃ values, run.evaluate line arguments = .ok values ∧ values.map Value.type = types := by
  induction arguments generalizing types with
  | nil =>
    obtain rfl := Except.ok.inj h
    exact ⟨[], rfl, rfl⟩
  | cons a rest ih =>
    obtain ⟨t, hfirst, h⟩ := exists_of_bind_ok h
    obtain ⟨ts, hrest, h⟩ := exists_of_bind_ok h
    obtain rfl := Except.ok.inj h
    obtain ⟨v, hv, hvtype⟩ := argument_of_argumentType hfirst
    obtain ⟨values, hvalues, htypes⟩ := ih hrest
    refine ⟨v :: values, ?_, ?_⟩
    · rw [evaluate, hv, hvalues]
      rfl
    · rw [List.map_cons, hvtype, htypes]

/-! ## Section 4: Calls -/

/-- A call that fits the signature at its index gives what the signature says, or fails over
something else than the call. -/
theorem invoke_sound {line : Line} {target : String} {index : Nat} {arguments : List Argument}
    {s : Signature} (htarget : run.typeOf? target = some t)
    (hs : Catalog.signature? t index = some s)
    (harguments : run.argumentTypes line arguments = .ok s.parameters) :
    match (run.invoke line target index arguments).2 with
    | .ok returned => returned.map Value.type = s.result
    | .error failure => failure.cause.isMiscall = false := by
  obtain ⟨before, hbefore, htype⟩ := Option.map_eq_some_iff.mp htarget
  subst htype
  obtain ⟨values, hvalues, htypes⟩ := evaluate_of_argumentTypes harguments
  have hsound := execute_sound run.job run.world before hs htypes
  rw [invoke_result index hvalues hbefore]
  cases hresult : (execute run.job run.world before index values).result with
  | ok result =>
    rw [hresult] at hsound
    exact (result.type_settle run.job _).trans hsound
  | error cause =>
    rw [hresult] at hsound
    exact hsound

/-- **Resolved once, sound ever after.** Once a call is resolved, then after any further steps,
performing its index on the same variable with any arguments of the same types gives a value of
the result type of the signature, or nothing if it has none, or fails; never because there is no
such operation, an argument does not fit, or a variable is not declared. Meanwhile every variable
keeps its type. -/
theorem resolved_call_stays_sound {line callLine : Line} {target operation : String}
    {types : List ValueType} {index : Nat} {arguments : List Argument}
    (hresolve : run.resolve line target operation types = .ok index) (steps : List Step)
    (harguments : (run.performAll steps).argumentTypes callLine arguments = .ok types) :
    (∀ name t, run.typeOf? name = some t → (run.performAll steps).typeOf? name = some t) ∧
      ∃ t s, run.typeOf? target = some t ∧ Catalog.signature? t index = some s ∧
        s.isNamed operation = true ∧ s.parameters = types ∧
        match ((run.performAll steps).invoke callLine target index arguments).2 with
        | .ok returned => returned.map Value.type = s.result
        | .error failure =>
          failure.cause.isDefect = false ∧ ∀ name, failure.cause ≠ .undeclaredVariable name := by
  refine ⟨fun name t h => typeOf?_performAll steps h, ?_⟩
  -- The signature was found at resolution, the type of the target is still the same
  obtain ⟨t, s, htarget, hs, hnamed, rfl⟩ := resolve_ok hresolve
  refine ⟨t, s, htarget, hs, hnamed, rfl, ?_⟩
  have hsound := invoke_sound (typeOf?_performAll steps htarget) hs harguments
  cases hresult : ((run.performAll steps).invoke callLine target index arguments).2 with
  | ok returned =>
    rw [hresult] at hsound
    exact hsound
  | error failure =>
    rw [hresult] at hsound
    exact failure.cause.isMiscall_eq_false_iff.mp hsound

/-- A division is resolved while its operand is seven, and performed when it has become zero: the
call fails over that, and over nothing else. -/
theorem division_stays_sound :
    let run : Run := { job := {}, «variables» := [("count", .int 7)] }
    let steps := [Step.assign ⟨1⟩ "count" (.literal (.int 0)), .stopTrackers]
    run.resolve ⟨0⟩ "count" "divide" [.int] = .ok 8 ∧
      (run.performAll steps).argumentTypes ⟨2⟩ [.variable "count"] = .ok [.int] ∧
      ((run.performAll steps).invoke ⟨2⟩ "count" 8 [.variable "count"]).2 =
        .error ⟨.divisionByZero, some ⟨2⟩⟩ ∧
      ∃ t s, run.typeOf? "count" = some t ∧ Catalog.signature? t 8 = some s ∧
        s.isNamed "divide" = true ∧ s.parameters = [.int] ∧
        match ((run.performAll steps).invoke ⟨2⟩ "count" 8 [.variable "count"]).2 with
        | .ok returned => returned.map Value.type = s.result
        | .error failure =>
          failure.cause.isDefect = false ∧
            ∀ name, failure.cause ≠ .undeclaredVariable name := by
  intro run steps
  have hresolve : run.resolve ⟨0⟩ "count" "divide" [.int] = .ok 8 := rfl
  have harguments :
      (run.performAll steps).argumentTypes ⟨2⟩ [.variable "count"] = .ok [.int] := rfl
  have hdivide : ((run.performAll steps).invoke ⟨2⟩ "count" 8 [.variable "count"]).2 =
      .error ⟨.divisionByZero, some ⟨2⟩⟩ := rfl
  exact ⟨hresolve, harguments, hdivide,
    (resolved_call_stays_sound hresolve steps harguments).2⟩

end Run

end JobScript
