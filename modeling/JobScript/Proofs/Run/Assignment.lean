import JobScript.Proofs.Run.Effects
import JobScript.Proofs.Run.Variables

/-!
# Assignment

An assignment takes over what the source shows and keeps what belongs to the target alone: the
random source of a list and the declared name of a tracker. It is refused unless both have the
same type, and then nothing happens. Types with an operation `assign` of their own do the same
there.

## Architecture

- `Operand`: what can stand on the right of an assignment
- `Value.shown`, `Value.own`: the part of a value that is handed over, and the part that stays
- `Value.assign_of_type`, `Value.assign_of_type_ne`: an assignment that succeeds, and one that does not
- `execute_assign`: the operation of the same type
- `assign_takes_over_what_is_shown`: the whole of it
-/

namespace JobScript

/-! ## Section 1: Operands -/

/-- What can stand on the right of an assignment. -/
inductive Operand where
  | value (v : Value)
  | literal (l : Literal)

namespace Operand

def type : Operand → ValueType
  | .value v => v.type
  | .literal l => l.type

/-- The value that an operand supplies. -/
def supplied : Operand → Value
  | .value v => v
  | .literal l => l.value

theorem type_supplied (operand : Operand) : operand.supplied.type = operand.type := by
  cases operand with
  | value v => rfl
  | literal l => cases l <;> rfl

end Operand

/-! ## Section 2: What is handed over and what stays -/

/-- What a value hands over when it is assigned. -/
inductive Shown where
  | boolean (b : Bool)
  | int (n : Int32)
  | text (t : Option String)
  | textList (values : List (Option String)) (cursor : Nat)
  | tracker (kind : TrackerKind) (chosenName : Option String) (collecting : Bool)
    (statistics : Option TrackerId)
  | popConnection (s : PopSession)
  | mailMessage (m : MailMessage)
  | script
  | rateLimiter (duration : Int32) (deadline : Option Instant)
  deriving DecidableEq

/-- What a value keeps whatever is assigned to it. -/
structure Own where
  source : Option Random.Source := none
  variableName : Option String := none
  deriving DecidableEq

namespace Value

def shown : Value → Shown
  | .boolean b => .boolean b
  | .int n => .int n
  | .text t => .text t
  | .textList l => .textList l.values l.cursor
  | .tracker h => .tracker h.kind h.chosenName h.collecting h.statistics
  | .popConnection s => .popConnection s
  | .mailMessage m => .mailMessage m
  | .script _ => .script
  | .rateLimiter limiter => .rateLimiter limiter.duration limiter.deadline

def own : Value → Own
  | .textList l => { source := l.source }
  | .script source => { source := source }
  | .tracker h => { variableName := h.variableName }
  | _ => {}

/-- A value is what it shows and what is its own. -/
theorem ext_shown_own {v v' : Value} (hshown : v.shown = v'.shown) (hown : v.own = v'.own) :
    v = v' := by
  rcases v with b | n | t | ⟨values, cursor, source⟩ |
      ⟨kind, variableName, chosenName, collecting, statistics⟩ | s | m | source |
      ⟨duration, deadline⟩ <;>
    rcases v' with b | n | t | ⟨values, cursor, source⟩ |
      ⟨kind, variableName, chosenName, collecting, statistics⟩ | s | m | source |
      ⟨duration, deadline⟩ <;>
    cases hshown
  -- Lists and scripts have a source of their own, and trackers a name
  all_goals first | rfl | (cases hown; rfl)

/-! ## Section 3: Success and failure -/

variable {target source : Value}

theorem assign_script (h : target.type = .script) :
    target.assign source = .error (.assignRejected .script) := by
  cases target with
  | script own => rfl
  | _ => cases h

/-- Values of two types are told apart, whatever the types are. -/
theorem assign_of_type_ne (hscript : target.type ≠ .script) (h : source.type ≠ target.type) :
    target.assign source = .error (.assignMismatch target.type source.type) := by
  cases target with
  | script own => exact absurd rfl hscript
  | tracker handle =>
    cases source with
    | tracker other =>
      apply if_neg
      intro hkind
      exact h (congrArg ValueType.tracker hkind.symm)
    | _ => rfl
  | _ => cases source <;> first | rfl | exact absurd rfl h

/-- Equal types are all that an assignment asks for. -/
theorem assign_of_type (hscript : target.type ≠ .script) (h : source.type = target.type) :
    ∃ after, target.assign source = .ok after ∧ after.shown = source.shown ∧
      after.own = target.own := by
  cases target with
  | script own => exact absurd rfl hscript
  | tracker handle =>
    obtain ⟨other, rfl⟩ : ∃ other, source = .tracker other := by
      cases source <;> first | exact ⟨_, rfl⟩ | cases h
    have hkind : handle.kind = other.kind := (ValueType.tracker.inj h).symm
    refine ⟨.tracker (handle.assign other), if_pos hkind, ?_, rfl⟩
    simp only [shown, TrackerHandle.assign, hkind]
  | _ =>
    -- The only values of the type are those of the same constructor
    cases source <;> first | exact ⟨_, rfl, rfl, rfl⟩ | cases h

/-- An assignment succeeds exactly when the types are equal and not that of the script; the target
then shows what the source shows, and keeps what is its own. -/
theorem assign_eq_ok_iff {after : Value} :
    target.assign source = .ok after ↔
      (source.type = target.type ∧ target.type ≠ .script) ∧
        after.shown = source.shown ∧ after.own = target.own := by
  constructor
  · intro hafter
    by_cases hscript : target.type = .script
    · rw [assign_script hscript] at hafter
      cases hafter
    by_cases htype : source.type = target.type
    · obtain ⟨taken, htaken, hshown, hown⟩ := assign_of_type hscript htype
      obtain rfl := Except.ok.inj (hafter.symm.trans htaken)
      exact ⟨⟨htype, hscript⟩, hshown, hown⟩
    · rw [assign_of_type_ne hscript htype] at hafter
      cases hafter
  · rintro ⟨⟨htype, hscript⟩, hshown, hown⟩
    obtain ⟨taken, htaken, hshown', hown'⟩ := assign_of_type hscript htype
    rw [htaken, ext_shown_own (hshown.trans hshown'.symm) (hown.trans hown'.symm)]

end Value

/-! ## Section 4: The operation `assign` -/

/-- The types with an operation `assign` that takes a value of the same type. -/
def ValueType.hasAssign : ValueType → Bool
  | .boolean | .int | .text | .textList | .mailMessage => true
  | _ => false

theorem isSome_resolve?_assign (t : ValueType) :
    (Catalog.resolve? t "assign" [t]).isSome = t.hasAssign := by
  have hall : ∀ t ∈ ValueType.all, (Catalog.resolve? t "assign" [t]).isSome = t.hasAssign := by
    decide +kernel
  exact hall t t.mem_all

/-- A call that only one operation of a catalog accepts leads to that operation. -/
theorem dispatch_of_resolve? {σ ω : Type} {t : ValueType} {catalog : List ω}
    {signature : ω → Signature} {name : String} {types : List ValueType} {index : Nat} {only : ω}
    {target : σ} {w : World} {run : ω → Outcome σ}
    (hindex : (catalog.map signature).findIdx? (·.accepts name types) = some index)
    (honly : ∀ op, (signature op).accepts name types = true → op = only) :
    dispatch t catalog index target w run = run only := by
  obtain ⟨hlt, haccepts, -⟩ := List.findIdx?_eq_some_iff_getElem.mp hindex
  rw [List.length_map] at hlt
  rw [List.getElem_map] at haccepts
  rw [dispatch, List.getElem?_eq_getElem hlt, ← honly _ haccepts]

/-- The operation `assign` of the same type leaves its target as the assignment does, changes
nothing else, and gives nothing. -/
theorem execute_assign {target source after : Value} {index : Nat} (job : Job) (w : World)
    (hindex : Catalog.resolve? target.type "assign" [target.type] = some index)
    (hafter : target.assign source = .ok after) :
    execute job w target index [source] = ⟨after, w, .ok .nothing⟩ := by
  have htype : source.type = target.type := (Value.assign_eq_ok_iff.mp hafter).1.1
  have hhas : target.type.hasAssign = true := by
    rw [← isSome_resolve?_assign, hindex]
    rfl
  cases target with
  | boolean b =>
    cases source with
    | boolean b' =>
      have honly (op : BooleanOperation) :
          op.signature.accepts "assign" [.boolean] = true → op = .assign := by
        cases op with
        | binary operator form => cases operator <;> cases form <;> decide
        | _ => decide
      obtain rfl := Except.ok.inj hafter
      rw [execute, dispatch_of_resolve? hindex honly]
      rfl
    | _ => cases htype
  | int n =>
    cases source with
    | int n' =>
      have honly (op : IntOperation) :
          op.signature.accepts "assign" [.int] = true → op = .assign := by
        cases op with
        | binary operator form => cases operator <;> cases form <;> decide
        | _ => decide
      obtain rfl := Except.ok.inj hafter
      rw [execute, dispatch_of_resolve? hindex honly]
      rfl
    | _ => cases htype
  | text t =>
    cases source with
    | text t' =>
      have honly (op : TextOperation) :
          op.signature.accepts "assign" [.text] = true → op = .assign := by
        cases op <;> decide
      obtain rfl := Except.ok.inj hafter
      rw [execute, dispatch_of_resolve? hindex honly]
      rfl
    | _ => cases htype
  | textList l =>
    cases source with
    | textList other =>
      have honly (op : TextListOperation) :
          op.signature.accepts "assign" [.textList] = true → op = .assign := by
        cases op <;> decide
      obtain rfl := Except.ok.inj hafter
      rw [execute, dispatch_of_resolve? hindex honly]
      rfl
    | _ => cases htype
  | mailMessage m =>
    cases source with
    | mailMessage m' =>
      have honly (op : MailOperation) :
          op.signature.accepts "assign" [.mailMessage] = true → op = .assign := by
        cases op <;> decide
      obtain rfl := Except.ok.inj hafter
      rw [execute, dispatch_of_resolve? hindex honly]
      rfl
    | _ => cases htype
  | _ => cases hhas

/-! ## Section 5: Assignments in a run -/

/-- An assignment that is refused is reported, and the run stays as it was. -/
theorem Run.perform_assign_of_error {run : Run} {line : Line} {name : String} {source : Argument}
    {target value : Value} {cause : Cause} (hsource : run.argument line source = .ok value)
    (htarget : run.get? name = some target) (hcause : target.assign value = .error cause) :
    run.perform (.assign line name source) = (run, .error (.failure ⟨cause, some line⟩)) := by
  simp only [perform, assign, hsource, htarget, hcause, bind, Except.bind]

/-- An assignment that succeeds gives nothing and changes the one variable. -/
theorem Run.perform_assign_of_ok {run : Run} {line : Line} {name : String} {source : Argument}
    {target value after : Value} (hsource : run.argument line source = .ok value)
    (htarget : run.get? name = some target) (hafter : target.assign value = .ok after) :
    (run.perform (.assign line name source)).2 = .ok none ∧
      ∀ other, (run.perform (.assign line name source)).1.get? other =
        if other = name then some after else run.get? other := by
  simp only [perform, assign, hsource, htarget, hafter, bind, Except.bind]
  constructor
  · rfl
  · intro other
    -- What is retired does not matter to the variables
    show (run.set name after).get? other = _
    rw [get?_set, htarget, Option.map_some]

/-- **Assignment is type-safe and all or nothing.** A value or constant is assigned exactly when it
has the type of the target and the target is not the script; what goes wrong otherwise names both
types. The target then shows all that the source shows and keeps its own random source or declared
name, and both parts together are the whole value. Where the type has an operation `assign` for
values of its own type, that operation leaves the target just so and does nothing else. In a run, an
assignment changes its target only, and one that is refused changes nothing. -/
theorem assign_takes_over_what_is_shown (target : Value) (operand : Operand) :
    (target.type = .script → target.assign operand.supplied = .error (.assignRejected .script)) ∧
      (target.type ≠ .script → operand.type ≠ target.type →
        target.assign operand.supplied =
          .error (.assignMismatch target.type operand.type)) ∧
      (target.type ≠ .script → operand.type = target.type →
        ∃ after, target.assign operand.supplied = .ok after ∧ after.type = target.type ∧
          after.shown = operand.supplied.shown ∧ after.own = target.own ∧
          (∀ other : Value, other.shown = operand.supplied.shown → other.own = target.own →
            other = after) ∧
          (target.type.hasAssign = true →
            ∃ index, Catalog.resolve? target.type "assign" [operand.type] = some index ∧
              ∀ job w,
                execute job w target index [operand.supplied] = ⟨after, w, .ok .nothing⟩)) ∧
      ∀ (run : Run) line name source, run.get? name = some target →
        run.argument line source = .ok operand.supplied →
          match target.assign operand.supplied with
          | .ok after =>
            (run.perform (.assign line name source)).2 = .ok none ∧
              ∀ other, (run.perform (.assign line name source)).1.get? other =
                if other = name then some after else run.get? other
          | .error cause =>
            run.perform (.assign line name source) =
              (run, .error (.failure ⟨cause, some line⟩)) := by
  refine ⟨?script, ?mismatch, ?success, ?performed⟩
  case script =>
    intro hscript
    exact Value.assign_script hscript
  case mismatch =>
    intro hscript htype
    rw [← operand.type_supplied] at htype ⊢
    exact Value.assign_of_type_ne hscript htype
  case success =>
    intro hscript htype
    rw [← operand.type_supplied] at htype ⊢
    obtain ⟨after, hafter, hshown, hown⟩ := Value.assign_of_type hscript htype
    refine ⟨after, hafter, Value.type_assign hafter, hshown, hown, ?_, ?_⟩
    · intro other hshown' hown'
      exact Value.ext_shown_own (hshown'.trans hshown.symm) (hown'.trans hown.symm)
    · intro hhas
      rw [htype]
      obtain ⟨index, hindex⟩ := Option.isSome_iff_exists.mp ((isSome_resolve?_assign _).trans hhas)
      exact ⟨index, hindex, fun job w => execute_assign job w hindex hafter⟩
  case performed =>
    intro run line name source htarget hsource
    cases hafter : target.assign operand.supplied with
    | ok after => exact Run.perform_assign_of_ok hsource htarget hafter
    | error cause => exact Run.perform_assign_of_error hsource htarget hafter

/-- A list that is read on takes over another one with its cursor, and goes on to draw from the
source that it had. -/
theorem assigned_list_keeps_its_source :
    let target := Value.textList { source := .ofSeed 1 }
    let source := Value.textList { values := [some "a", none], cursor := 1, source := .ofSeed 2 }
    ∃ after, target.assign source = .ok after ∧ after.shown = .textList [some "a", none] 1 ∧
      after.own = { source := some (.ofSeed 1) } ∧
      ∃ index, Catalog.resolve? .textList "assign" [.textList] = some index ∧
        ∀ job w, execute job w target index [source] = ⟨after, w, .ok .nothing⟩ := by
  intro target source
  obtain ⟨-, -, hsuccess, -⟩ := assign_takes_over_what_is_shown target (.value source)
  obtain ⟨after, hafter, -, hshown, hown, -, hoperation⟩ := hsuccess (by decide) rfl
  exact ⟨after, hafter, hshown, hown, hoperation rfl⟩

end JobScript
