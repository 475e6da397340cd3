import JobScript.Proofs.Run.Effects
import JobScript.Proofs.Run.Idle
import JobScript.Proofs.Run.Variables
import JobScript.Proofs.Typing.Execution

/-!
# What Leaves Trackers Alone

Most of what a run does has nothing to do with trackers: it leaves the statistics as they are, and
every tracker variable with its handle. Time may pass meanwhile, but never backwards.

## Architecture

- `World.KeepsTrackers`, `Run.KeepsTrackers`: the frame of the shared state, and of a run
- `execute_keepsTrackers`: operations on targets of other types
- `Run.asked`: what a call asks of a tracker, if it asks anything
- `Run.invoke_of_asked`, `Run.invoke_of_not_asked`: calls that ask something, and calls that do not
- `Run.assign_cases`: assignments between trackers, and all others
- `Run.keepsTrackers_releaseSessions`: closing connections
-/

namespace JobScript

/-! ## Section 1: The shared state -/

/-- Statistics stay, and time does not run backwards. -/
structure World.KeepsTrackers (w w' : World) : Prop where
  statistics : w'.statistics = w.statistics
  now_le : w.now ≤ w'.now

namespace World.KeepsTrackers

theorem refl (w : World) : w.KeepsTrackers w :=
  ⟨rfl, Nat.le_refl _⟩

theorem sleep (w : World) (span : Span) : w.KeepsTrackers (w.sleep span) :=
  ⟨rfl, Nat.le_add_right _ _⟩

theorem of_idles {w w' : World} (h : w.Idles w') : w.KeepsTrackers w' :=
  ⟨by rw [h.rest], h.now_le⟩

end World.KeepsTrackers

/-! ## Section 2: Operations -/

/-- Operations of sessions reach the network. -/
theorem PopOperation.run_keepsTrackers (op : PopOperation) (s : PopSession)
    (arguments : List Value) (w : World) : w.KeepsTrackers (op.run s arguments w).world := by
  have hnetwork (network : Pop.Network) : w.KeepsTrackers { w with network } :=
    ⟨rfl, Nat.le_refl _⟩
  have hwith {α : Type} (read : Except Cause α) {go : α → Outcome PopSession}
      (hgo : ∀ a, w.KeepsTrackers (go a).world) :
      w.KeepsTrackers (s.withArguments w read go).world :=
    PopSession.withArguments_of (P := (w.KeepsTrackers ·.world))
      (fun _ => World.KeepsTrackers.refl w) hgo
  cases op with
  | connect | connectSecurely => exact hwith _ fun _ => hnetwork _
  | authenticate | top => exact hwith _ fun _ => hnetwork _
  | delete | retrieve => exact hwith _ fun _ => hnetwork _
  | disconnect | list | noop | stat => exact hnetwork _
  | failureReason => exact World.KeepsTrackers.refl w

/-- A call on anything but a tracker leaves the statistics alone. -/
theorem execute_keepsTrackers (job : Job) (w : World) {target : Value}
    (htarget : ∀ h, target ≠ .tracker h) (index : Nat) (arguments : List Value) :
    w.KeepsTrackers (execute job w target index arguments).world := by
  by_cases hsession : ∃ s, target = .popConnection s
  · obtain ⟨s, rfl⟩ := hsession
    apply dispatch_world (World.KeepsTrackers.refl w)
    intro op
    exact op.run_keepsTrackers s arguments w
  · exact .of_idles (execute_idles job w htarget (not_exists.mp hsession) index arguments)

/-! ## Section 3: Runs -/

/-- Tracker variables keep their handles, and the statistics stay as they are. -/
structure Run.KeepsTrackers (run run' : Run) : Prop where
  job : run'.job = run.job
  names : run'.variables.map Prod.fst = run.variables.map Prod.fst
  handles : ∀ name, run'.handle? name = run.handle? name
  retired : run'.retired = run.retired
  world : run.world.KeepsTrackers run'.world

namespace Run

variable {run : Run} {line : Line} {target : String} {index : Nat} {arguments : List Argument}

theorem KeepsTrackers.refl (run : Run) : run.KeepsTrackers run :=
  ⟨rfl, rfl, fun _ => rfl, rfl, World.KeepsTrackers.refl _⟩

theorem keepsTrackers_releaseSessions (run : Run) : run.KeepsTrackers run.releaseSessions where
  job := rfl
  names := names_sweep releaseVariable run.variables run.world
  handles := handle?_releaseSessions run
  retired := rfl
  world := by
    have hsweep (entries : List (String × Value)) (w : World) :
        w.KeepsTrackers (sweep releaseVariable entries w).2 := by
      induction entries generalizing w with
      | nil => exact World.KeepsTrackers.refl w
      | cons entry rest ih =>
        have hfirst : w.KeepsTrackers (releaseVariable entry.2 w).2 := by
          unfold releaseVariable
          split <;> exact ⟨rfl, Nat.le_refl _⟩
        have hrest := ih (releaseVariable entry.2 w).2
        exact ⟨hrest.statistics.trans hfirst.statistics, Nat.le_trans hfirst.now_le hrest.now_le⟩
    exact hsweep run.variables run.world

/-- A new variable is found last, and no other name leads elsewhere than before. -/
theorem handle?_append {name : String} (hnone : run.get? name = none) (value : Value) (w : World)
    (other : String) :
    { run with «variables» := run.variables ++ [(name, value)], world := w }.handle? other =
      if other = name then value.handle? else run.handle? other := by
  rw [handle?, get?, List.lookup_append]
  by_cases hother : other = name
  · subst hother
    rw [show run.variables.lookup other = none from hnone]
    simp
  · have hlast : [(name, value)].lookup other = none := by
      rw [List.lookup_cons, beq_eq_false_iff_ne.mpr hother]
      rfl
    rw [if_neg hother, hlast, Option.or_none]
    rfl

/-- The handle that a call goes to, with what it asks for. Calls on other values ask for nothing,
and neither do calls that fail. -/
def asked (run : Run) (line : Line) (target : String) (index : Nat) (arguments : List Argument) :
    Option (TrackerHandle × TrackerRequest) :=
  match run.evaluate line arguments, run.handle? target with
  | .ok values, some h =>
    match h.request index values with
    | .ok request => some (h, request)
    | .error _ => none
  | _, _ => none

/-- What a call asks for is the request behind its index and the values of its arguments. -/
theorem request_of_asked {h : TrackerHandle} {request : TrackerRequest}
    (hasked : run.asked line target index arguments = some (h, request)) :
    run.handle? target = some h ∧
      ∃ values, run.evaluate line arguments = .ok values ∧ h.request index values = .ok request := by
  unfold asked at hasked
  split at hasked
  · rename_i values h' hvalues hhandle
    split at hasked
    · rename_i request' hrequest
      obtain ⟨rfl, rfl⟩ := Prod.mk.inj (Option.some.inj hasked)
      exact ⟨hhandle, values, hvalues, hrequest⟩
    · cases hasked
  · cases hasked

/-- A call that asks something of a tracker carries it out on the target. -/
theorem invoke_of_asked {h : TrackerHandle} {request : TrackerRequest}
    (hasked : run.asked line target index arguments = some (h, request)) :
    run.handle? target = some h ∧ ∃ issued messages,
      (run.invoke line target index arguments).1 =
        { run.set target (.tracker (request.perform h run.job run.world).1) with
          world := { (request.perform h run.job run.world).2 with issued, messages } } := by
  obtain ⟨hhandle, values, hvalues, hrequest⟩ := request_of_asked hasked
  obtain ⟨issued, messages, hinvoke⟩ :=
    invoke_eq index hvalues (handle?_eq_some_iff.mp hhandle)
  rw [execute_tracker, hrequest] at hinvoke
  exact ⟨hhandle, issued, messages, hinvoke⟩

/-- Any other call leaves trackers alone. -/
theorem invoke_of_not_asked (hasked : run.asked line target index arguments = none) :
    run.KeepsTrackers (run.invoke line target index arguments).1 := by
  cases hvalues : run.evaluate line arguments with
  | error failure =>
    rw [invoke_eq_self (.inl ⟨failure, hvalues⟩)]
    exact KeepsTrackers.refl run
  | ok values =>
    cases hbefore : run.get? target with
    | none =>
      rw [invoke_eq_self (.inr hbefore)]
      exact KeepsTrackers.refl run
    | some before =>
      obtain ⟨issued, messages, hinvoke⟩ := invoke_eq index hvalues hbefore
      rw [hinvoke]
      -- The target is no tracker, or it is one and the call failed
      have hexecute : (execute run.job run.world before index values).target.handle? =
            before.handle? ∧
          run.world.KeepsTrackers (execute run.job run.world before index values).world := by
        cases hhandle : before.handle? with
        | none =>
          refine ⟨Value.handle?_eq_none_of_type (type_target_execute _ _ _ _ _) hhandle, ?_⟩
          apply execute_keepsTrackers
          rintro h rfl
          cases hhandle
        | some h =>
          -- The call goes to a tracker, so it must have failed
          obtain rfl : before = .tracker h := by
            cases before <;> cases hhandle
            rfl
          have hfailed : ∃ cause, h.request index values = .error cause := by
            simp only [asked, hvalues, handle?_eq_some_iff.mpr hbefore] at hasked
            cases hrequest : h.request index values with
            | ok request =>
              rw [hrequest] at hasked
              cases hasked
            | error cause => exact ⟨cause, rfl⟩
          obtain ⟨cause, hcause⟩ := hfailed
          rw [execute_tracker, hcause]
          exact ⟨rfl, World.KeepsTrackers.refl _⟩
      constructor
      · rfl
      · exact names_replace target _ run.variables
      · intro name
        refine (handle?_set hbefore).trans ?_
        split
        · rename_i hname
          rw [hexecute.1, hname, handle?, hbefore]
          rfl
        · rfl
      · rfl
      · exact ⟨hexecute.2.statistics, hexecute.2.now_le⟩

/-- An assignment hands one tracker's handle to another of its kind, or leaves trackers alone. -/
theorem assign_cases {run' : Run} {source : Argument}
    (hassign : run.assign line target source = .ok run') :
    run.KeepsTrackers run' ∨ ∃ name h other, source = .variable name ∧
      run.handle? target = some h ∧ run.handle? name = some other ∧ h.kind = other.kind ∧
      run' = { run.set target (.tracker (h.assign other)) with
        retired := run.retired ++ abandoned h.statistics other.statistics } := by
  obtain ⟨value, before, after, hvalue, hbefore, hafter, rfl⟩ := assign_ok hassign
  cases hhandle : before.handle? with
  | none =>
    left
    have hnone : after.handle? = none :=
      Value.handle?_eq_none_of_type (Value.type_assign hafter) hhandle
    have hfed : fedBy before = none := by rw [fedBy_eq, hhandle]; rfl
    constructor
    · rfl
    · exact names_replace target after run.variables
    · intro name
      refine (handle?_set hbefore).trans ?_
      split
      · rename_i hname
        rw [hnone, hname, handle?, hbefore]
        exact hhandle.symm
      · rfl
    · simp only [hfed, abandoned, Option.toList_none, List.filter_nil, List.append_nil]
    · exact World.KeepsTrackers.refl _
  | some h =>
    right
    -- Only another tracker of the same kind can be assigned
    obtain rfl : before = .tracker h := by
      cases before <;> cases hhandle
      rfl
    cases value with
    | tracker other =>
      simp only [Value.assign] at hafter
      split at hafter
      · rename_i hkind
        obtain rfl := Except.ok.inj hafter
        cases source with
        | literal l => cases l <;> cases hvalue
        | «variable» name =>
          refine ⟨name, h, other, rfl, handle?_eq_some_iff.mpr hbefore, ?_, hkind, rfl⟩
          rw [handle?_eq_some_iff]
          simp only [argument] at hvalue
          split at hvalue
          · rename_i found hfound
            obtain rfl := Except.ok.inj hvalue
            exact hfound
          · cases hvalue
      · cases hafter
    | _ => cases hafter

end Run

end JobScript
