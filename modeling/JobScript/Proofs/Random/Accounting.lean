import JobScript.Proofs.Random.Sources
import JobScript.Proofs.Run.Order
import JobScript.Proofs.Trackers.Timeline
import JobScript.Proofs.Typing.Resolution

/-!
# The Random Sources of a Run

A run hands out its random sources by number. A declaration of a list or a script takes the next
one, and so does a call that gives a list; nothing else takes any. What has a source keeps it:
assignments, calls and copies neither replace it nor put anything back, and only draws move it on.

## Architecture

- `Result.isNew`, `isNew_execute`: a list that an operation gives is a new one
- `Run.takesSource`, `Run.sourcesTaken`: the steps that take a source
- `Run.issued_performAll`: the number of sources handed out
- `Run.declare_of_ok`, `Run.source_of_list`: the source that is taken
- `Run.drawsOn`, `Run.source?_perform`: a variable keeps its source, and its draws move it on
-/

namespace JobScript

/-! ## Section 1: Results that are lists -/

namespace Result

/-- A list among the results is a new one. -/
def isNew : Result → Bool
  | .value (.textList _) => false
  | _ => true

end Result

/-- No operator gives a list. -/
theorem IntOperator.isNew_combine (operator : IntOperator) (a b : Int32) :
    Yields (fun result => result.isNew = true) (operator.combine a b) := by
  cases operator with
  | divide | remainder =>
    simp only [combine]
    split
    · exact Yields.error _
    · exact Yields.ok rfl
  | _ => exact Yields.ok rfl

section

variable (arguments : List Value)

theorem BooleanOperation.isNew_run (op : BooleanOperation) (b : Bool) :
    Yields (fun done => done.2.isNew = true) (op.run b arguments) := by
  cases op with
  | binary operator form =>
    cases form with
    | receiver => exact Yields.bind fun _ => Yields.ok rfl
    | arguments => exact Yields.bind fun _ => Yields.bind fun _ => Yields.ok rfl
  | assign => exact Yields.bind fun _ => Yields.ok rfl
  | assignText =>
    apply Yields.bind
    intro text
    split
    · exact Yields.ok rfl
    · exact Yields.bind fun _ => Yields.ok rfl
  | isFalse | toText => exact Yields.ok rfl

theorem IntOperation.isNew_run (op : IntOperation) (n : Int32) :
    Yields (fun done => done.2.isNew = true) (op.run n arguments) := by
  cases op with
  | binary operator form =>
    apply Yields.bind
    rintro ⟨a, b⟩
    exact Yields.bind_of (operator.isNew_combine a b) fun _ hresult => Yields.ok hresult
  | assignText =>
    apply Yields.bind
    intro text
    split
    · exact Yields.ok rfl
    · exact Yields.bind fun _ => Yields.ok rfl
  | assign | decrementBy | incrementBy | notOf => exact Yields.bind fun _ => Yields.ok rfl
  | decrement | increment | not | toText => exact Yields.ok rfl

theorem TextOperation.isNew_run (op : TextOperation) (t : Option String) :
    Yields (fun done => done.2.isNew = true) (op.run t arguments) := by
  cases op with
  | assign | assignInt =>
    simp only [run]
    split
    · exact Yields.ok rfl
    · exact Yields.bind fun _ => Yields.ok rfl
  | append | splitAt => exact Yields.bind fun _ => Yields.ok rfl
  | compareTo | contains | endsWith | equals | indexOf | lastIndexOf | startsWith =>
    exact Yields.bind fun _ => Yields.ok rfl
  | indexOfFrom | lastIndexOfFrom | substringFrom =>
    exact Yields.bind fun _ => Yields.bind fun _ => Yields.ok rfl
  | substring =>
    apply Yields.bind
    intro first
    apply Yields.bind
    intro last
    apply Yields.bind
    intro start
    apply Yields.bind
    intro stop
    split
    · exact Yields.ok rfl
    · exact Yields.error _
  | isNull | notNull | length | splitAtTabs | toLowerCase | toUpperCase => exact Yields.ok rfl

theorem TextListOperation.isNew_run (op : TextListOperation) (l : TextList) :
    Yields (fun done => done.2.isNew = true) (op.run l arguments) := by
  cases op with
  | addValue | assign => exact Yields.bind fun _ => Yields.ok rfl
  | contains | indexOf | indexOfFrom | remove | removeValueAt | valueAt =>
    exact Yields.bind fun _ => Yields.bind fun _ => Yields.ok rfl
  | insert | setValueAt =>
    exact Yields.bind fun _ => Yields.bind fun _ => Yields.bind fun _ => Yields.ok rfl
  | firstValue | isEmpty | isNotEmpty | length | nextValue | randomValue | removeAll =>
    exact Yields.ok rfl

theorem MailOperation.isNew_run (op : MailOperation) (m : MailMessage) :
    Yields (fun done => done.2.isNew = true) (op.run m arguments) := by
  cases op with
  | clear | clearBody | clearHeader | bodyLines | ccRecipients | headerLines | toRecipients | sender
  | subject => exact Yields.ok rfl
  | _ => exact Yields.bind fun _ => Yields.ok rfl

theorem ScriptOperation.isNew_run (op : ScriptOperation) (source : Random.Source) (job : Job)
    (w : World) : Yields (fun done => done.2.2.isNew = true) (op.run source arguments job w) := by
  cases op with
  | exit | exitWithError => exact Yields.error _
  | clientNumber | threadNumber | shouldStop | shouldNotStop => exact Yields.ok rfl
  | debugMessage | logMessage | sleep | argument | timestamp =>
    exact Yields.bind fun _ => Yields.ok rfl
  | argumentOr | booleanArgument | intArgument =>
    apply Yields.bind
    intro found
    split
    · exact Yields.ok rfl
    · exact Yields.bind fun _ => Yields.ok rfl
  | randomInt | randomTextOf =>
    exact Yields.bind fun _ => Yields.bind fun _ => Yields.bind fun _ => Yields.ok rfl
  | randomText | timestampAs => exact Yields.bind fun _ => Yields.bind fun _ => Yields.ok rfl

theorem RateLimiterOperation.isNew_run (op : RateLimiterOperation) (limiter : RateLimiter)
    (w : World) : Yields (fun done => done.2.2.isNew = true) (op.run limiter arguments w) := by
  cases op with
  | setDuration => exact Yields.bind fun _ => Yields.ok rfl
  | duration | sleepForRemainingTime | startTimer => exact Yields.ok rfl

end

namespace PopSession

variable {P : Result → Prop}

theorem yields_withArguments {α : Type} {s : PopSession} {w : World} {read : Except Cause α}
    {go : α → Outcome PopSession} (hgo : ∀ a, Yields P (go a).result) :
    Yields P (s.withArguments w read go).result :=
  withArguments_of (P := (Yields P ·.result)) (fun _ => Yields.error _) hgo

theorem yields_converseOutcome {α : Type} (s : PopSession) (w : World) (unconnected : α)
    (exchange : Pop.Exchange α) {result : α → Result} (hresult : ∀ a, P (result a)) :
    Yields P (s.converseOutcome w unconnected exchange result).result := by
  unfold converseOutcome
  dsimp only
  split
  · exact Yields.ok (hresult _)
  · exact Yields.error _

end PopSession

theorem PopOperation.isNew_run (op : PopOperation) (s : PopSession) (arguments : List Value)
    (w : World) : Yields (fun result => result.isNew = true) (op.run s arguments w).result := by
  cases op with
  | connect | connectSecurely =>
    apply PopSession.yields_withArguments
    intro a
    exact Yields.ok rfl
  | disconnect | failureReason => exact Yields.ok rfl
  | list | noop | stat => exact s.yields_converseOutcome w _ _ fun _ => rfl
  | delete | retrieve =>
    apply PopSession.yields_withArguments
    intro message
    exact s.yields_converseOutcome w _ _ fun _ => rfl
  | authenticate | top =>
    apply PopSession.yields_withArguments
    rintro ⟨first, second⟩
    exact s.yields_converseOutcome w _ _ fun _ => rfl

namespace Outcome

variable {σ : Type} {P : Result → Prop}

theorem yields_ofExcept (target : σ) (w : World) {done : Except Cause (σ × World × Result)}
    (h : Yields (fun done => P done.2.2) done) : Yields P (ofExcept target w done).result := by
  cases done with
  | ok done => exact Yields.ok (h done rfl)
  | error cause => exact Yields.error cause

theorem yields_ofTarget (target : σ) (w : World) {done : Except Cause (σ × Result)}
    (h : Yields (fun done => P done.2) done) : Yields P (ofTarget target w done).result := by
  cases done with
  | ok done => exact Yields.ok (h done rfl)
  | error cause => exact Yields.error cause

/-- What every operation of a catalog gives, a call by index gives. -/
theorem yields_dispatch {τ ω : Type} {t : ValueType} {catalog : List ω} {index : Nat} {target : σ}
    {w : World} {run : ω → Outcome σ} {f : σ → τ} (h : ∀ op, Yields P (run op).result) :
    Yields P ((dispatch t catalog index target w run).map f).result := by
  unfold dispatch
  split
  · exact h _
  · exact Yields.error _

end Outcome

/-- **Operations make lists, and hand none on.** -/
theorem isNew_execute (job : Job) (w : World) (target : Value) (index : Nat)
    (arguments : List Value) :
    Yields (fun result => result.isNew = true) (execute job w target index arguments).result := by
  cases target with
  | boolean b =>
    exact Outcome.yields_dispatch fun op => Outcome.yields_ofTarget b w (op.isNew_run arguments b)
  | int n =>
    exact Outcome.yields_dispatch fun op => Outcome.yields_ofTarget n w (op.isNew_run arguments n)
  | text t =>
    exact Outcome.yields_dispatch fun op => Outcome.yields_ofTarget t w (op.isNew_run arguments t)
  | textList l =>
    exact Outcome.yields_dispatch fun op => Outcome.yields_ofTarget l w (op.isNew_run arguments l)
  | tracker handle =>
    rw [execute_tracker]
    split
    · exact Yields.ok rfl
    · exact Yields.error _
  | popConnection session =>
    exact Outcome.yields_dispatch fun op => op.isNew_run session arguments w
  | mailMessage m =>
    exact Outcome.yields_dispatch fun op => Outcome.yields_ofTarget m w (op.isNew_run arguments m)
  | script source =>
    exact Outcome.yields_dispatch fun op =>
      Outcome.yields_ofExcept source w (op.isNew_run arguments source job w)
  | rateLimiter limiter =>
    exact Outcome.yields_dispatch fun op =>
      Outcome.yields_ofExcept limiter w (op.isNew_run arguments limiter w)

/-! ## Section 2: Sources handed out -/

/-- Operations on sessions reach the network and nothing else. -/
theorem PopOperation.issued_run (op : PopOperation) (s : PopSession) (arguments : List Value)
    (w : World) : (op.run s arguments w).world.issued = w.issued := by
  have hwith {α : Type} (read : Except Cause α) {go : α → Outcome PopSession}
      (hgo : ∀ a, (go a).world.issued = w.issued) :
      (s.withArguments w read go).world.issued = w.issued :=
    PopSession.withArguments_of (P := (·.world.issued = w.issued)) (fun _ => rfl) hgo
  cases op with
  | connect | connectSecurely => exact hwith _ fun _ => rfl
  | authenticate | delete | retrieve | top => exact hwith _ fun _ => rfl
  | disconnect | failureReason | list | noop | stat => rfl

/-- No operation hands out a random source itself. -/
theorem issued_execute (job : Job) (w : World) (target : Value) (index : Nat)
    (arguments : List Value) : (execute job w target index arguments).world.issued = w.issued := by
  by_cases hsession : ∃ s, target = .popConnection s
  · obtain ⟨s, rfl⟩ := hsession
    exact dispatch_world (P := (·.issued = w.issued)) rfl fun op => op.issued_run s arguments w
  by_cases htracker : ∃ h, target = .tracker h
  · obtain ⟨h, rfl⟩ := htracker
    rw [execute_tracker]
    split
    · rename_i request _
      obtain ⟨statistics, points, hworld⟩ := request.tracks_perform h job w
      simp only [hworld]
    · rfl
  · have hidles := execute_idles job w (not_exists.mp htracker) (not_exists.mp hsession) index
      arguments
    rw [hidles.rest]

namespace Run

variable {run run' : Run} {line : Line} {name target : String} {index : Nat}
  {arguments : List Argument}

/-- The random source that is handed out next. -/
def nextSource (run : Run) : Random.Source :=
  (run.world.nextSource run.job.settings.runSeed).1

/-- A declaration that succeeds gives the variable the next source, and takes that source if the
variable draws. -/
theorem declare_of_ok {t : ValueType} (h : run.declare line name t = .ok run') :
    run'.get? name = some (Value.declared t name run.nextSource) ∧
      run'.world.issued = run.world.issued + t.drawsRandomly.toNat := by
  have hnew : run.get? name = none := (declare_ok h).1
  unfold declare at h
  split at h
  · cases h
  · rw [hnew, Option.isSome_none, if_neg Bool.false_ne_true] at h
    obtain rfl := Except.ok.inj h
    constructor
    · show (run.variables ++ _).lookup name = _
      rw [List.lookup_append, show run.variables.lookup name = none from hnew, Option.none_or]
      simp [nextSource, World.nextSource]
    · dsimp only
      cases t.drawsRandomly <;> rfl

/-- A list that a call gives has the next source, and a call takes that source exactly if it gives a
list. -/
theorem issued_invoke (run : Run) (line : Line) (target : String) (index : Nat)
    (arguments : List Argument) :
    let invoked := run.invoke line target index arguments
    (∀ l, invoked.2 = .ok (some (.textList l)) →
      l.source = run.nextSource ∧ invoked.1.world.issued = run.world.issued + 1) ∧
    ((∀ l, invoked.2 ≠ .ok (some (.textList l))) → invoked.1.world.issued = run.world.issued) := by
  intro invoked
  cases hvalues : run.evaluate line arguments with
  | error failure =>
    have hsame : invoked = (run, .error failure) := invoke_of_evaluate_error target index hvalues
    rw [hsame]
    exact ⟨fun l h => by (cases h), fun _ => rfl⟩
  | ok values =>
    cases hbefore : run.get? target with
    | none =>
      have hsame : invoked = (run, .error ⟨.undeclaredVariable target, some line⟩) :=
        invoke_of_undeclared index hvalues hbefore
      rw [hsame]
      exact ⟨fun l h => by (cases h), fun _ => rfl⟩
    | some before =>
      have hissued := issued_execute run.job run.world before index values
      have hnew := isNew_execute run.job run.world before index values
      obtain ⟨messages, hinvoked⟩ := invoke_settled index hvalues hbefore
      simp only [invoked, hinvoked, settled]
      generalize execute run.job run.world before index values = outcome at hissued hnew ⊢
      cases hresult : outcome.result with
      | error cause => exact ⟨fun l h => by (cases h), fun _ => hissued⟩
      | ok result =>
        cases result with
        | nothing => exact ⟨fun l h => by (cases h), fun _ => hissued⟩
        | value v =>
          refine ⟨?_, fun _ => hissued⟩
          rintro l hl
          obtain rfl := Option.some.inj (Except.ok.inj hl)
          cases hnew _ hresult
        | list lines =>
          -- The one result that is settled with a source, and the only one that becomes a list
          constructor
          · rintro l hl
            cases hl
            refine ⟨?_, congrArg (· + 1) hissued⟩
            simp only [nextSource, World.nextSource, hissued]
            rfl
          · intro hnone
            exact absurd rfl (hnone _)

/-- The step takes a random source: it gives a list, or declares a list or a script. -/
def takesSource (run : Run) (step : Step) : Bool :=
  match (run.perform step).2 with
  | .error _ => false
  | .ok (some value) => value.type == .textList
  | .ok none =>
    match step with
    | .declare _ _ keyword =>
      [some .textList, some .script].contains (ValueType.ofKeyword? keyword)
    | _ => false

/-- Number of the steps that take a random source. -/
def sourcesTaken (run : Run) : List Step → Nat
  | [] => 0
  | step :: steps =>
    (run.takesSource step).toNat + (run.perform step).1.sourcesTaken steps

/-- **A step** hands out a random source exactly if it takes one. -/
theorem issued_perform (run : Run) (step : Step) :
    (run.perform step).1.world.issued =
      run.world.issued + (run.takesSource step).toNat := by
  have hinvoke (line : Line) (target : String) (index : Nat) (arguments : List Argument) :
      (run.perform (.invoke line target index arguments)).1.world.issued = run.world.issued +
        (run.takesSource (.invoke line target index arguments)).toNat := by
    obtain ⟨hlist, hother⟩ := run.issued_invoke line target index arguments
    simp only [takesSource, perform]
    cases hresult : (run.invoke line target index arguments).2 with
    | error failure => exact hother fun l hl => by cases hresult.symm.trans hl
    | ok given =>
      cases given with
      | none => exact hother fun l hl => by cases hresult.symm.trans hl
      | some value =>
        cases value with
        | textList l => exact (hlist l hresult).2
        | _ => exact hother fun l hl => by cases hresult.symm.trans hl
  cases step with
  | declare line name keyword =>
    rcases run.perform_declare line name keyword with
      ⟨d, hrefused⟩ | ⟨t, run', ht, hdeclare, hperformed⟩
    · simp only [takesSource, hrefused]
      rfl
    · simp only [takesSource, hperformed, ht, (declare_of_ok hdeclare).2]
      cases t <;> rfl
  | call line target operation arguments =>
    rcases run.perform_call line target operation arguments with
      ⟨d, hrefused⟩ | ⟨index, -, hperformed⟩
    · simp only [takesSource, hrefused]
      rfl
    · have h := hinvoke line target index arguments
      simp only [takesSource, ← hperformed] at h ⊢
      exact h
  | invoke line target index arguments => exact hinvoke line target index arguments
  | assign line target source =>
    simp only [takesSource, perform]
    cases hassign : run.assign line target source with
    | error failure => rfl
    | ok run' =>
      obtain ⟨value, before, after, -, -, -, rfl⟩ := assign_ok hassign
      rfl
  | wait span => rfl
  | requestStop requested => rfl
  | stopTrackers =>
    obtain ⟨statistics, points, hworld⟩ := tracks_stopTrackers run
    simp only [perform, hworld, takesSource]
    rfl
  | releaseSessions =>
    show (sweep releaseVariable run.variables run.world).2.issued = _
    rw [sweep_eq releaseVariable_eq]
    -- Closing a connection leaves the sources alone
    refine List.foldlRecOn (motive := fun w : World => w.issued = run.world.issued) _ _ rfl ?_
    intro w hw id _
    exact hw

/-- **A run** has handed out as many random sources as its steps have taken. -/
theorem issued_performAll (run : Run) (steps : List Step) :
    (run.performAll steps).world.issued = run.world.issued + run.sourcesTaken steps := by
  induction steps generalizing run with
  | nil => rfl
  | cons step steps ih =>
    refine (ih (run.perform step).1).trans ?_
    rw [issued_perform, sourcesTaken, Nat.add_assoc]

/-- A list that a step gives has the next source. -/
theorem source_of_list {step : Step} {l : TextList}
    (hl : (run.perform step).2 = .ok (some (.textList l))) : l.source = run.nextSource := by
  have hinvoke {line : Line} {target : String} {index : Nat} {arguments : List Argument}
      (hl : (run.perform (.invoke line target index arguments)).2 = .ok (some (.textList l))) :
      l.source = run.nextSource := by
    simp only [perform] at hl
    cases hresult : (run.invoke line target index arguments).2 with
    | error failure =>
      rw [hresult] at hl
      cases hl
    | ok given =>
      rw [hresult] at hl
      obtain rfl := Except.ok.inj hl
      exact ((run.issued_invoke line target index arguments).1 l hresult).1
  cases step with
  | call line target operation arguments =>
    rcases run.perform_call line target operation arguments with
      ⟨d, hrefused⟩ | ⟨index, -, hperformed⟩
    · rw [hrefused] at hl
      cases hl
    · rw [hperformed] at hl
      exact hinvoke hl
  | invoke line target index arguments => exact hinvoke hl
  | declare line name keyword =>
    rcases run.perform_declare line name keyword with
      ⟨d, hrefused⟩ | ⟨t, run', -, -, hperformed⟩
    · rw [hrefused] at hl
      cases hl
    · rw [hperformed] at hl
      cases hl
  | assign line target source =>
    simp only [perform] at hl
    split at hl <;> cases hl
  | _ => cases hl

/-! ## Section 4: Sources of variables -/

/-- The random source of a variable, if it has one. -/
def source? (run : Run) (name : String) : Option Random.Source :=
  (run.get? name).bind Value.source?

/-- The step calls an operation that draws random numbers on the variable, by its name or by its
index. -/
def drawsOn (run : Run) (name : String) : Step → Bool
  | .call _ target operation _ =>
    target == name && drawing.any (Text.equalIgnoringAsciiCase · operation)
  | .invoke _ target index _ => target == name && (run.typeOf? name).any (drawsAt · index)
  | _ => false

/-- The operations of a catalog that draw are those of the names that are drawing. -/
theorem drawsAt_of_isNamed {t : ValueType} {index : Nat} {s : Signature} {operation : String}
    (hs : Catalog.signature? t index = some s) (hnamed : s.isNamed operation = true) :
    drawsAt t index = drawing.any (Text.equalIgnoringAsciiCase · operation) := by
  -- Catalogs write names in small letters, and so does the list of drawing names
  have hall : ∀ t ∈ ValueType.all, ∀ s ∈ Catalog.signatures t,
      drawing.any (Text.equalIgnoringAsciiCase · s.name) = drawing.contains s.name := by
    decide +kernel
  have hfold : Text.asciiLower s.name = Text.asciiLower operation :=
    Text.equalIgnoringAsciiCase_iff.mp hnamed
  have hsame (name : String) : Text.equalIgnoringAsciiCase name s.name =
      Text.equalIgnoringAsciiCase name operation := by
    rw [Bool.eq_iff_iff, Text.equalIgnoringAsciiCase_iff, Text.equalIgnoringAsciiCase_iff, hfold]
  rw [drawsAt, hs, Option.any_some, ← hall t t.mem_all s (List.mem_of_getElem? hs)]
  simp only [hsame]

/-- A call by name draws if the call by index that it stands for does. -/
theorem drawsOn_call {operation : String}
    (hindex : run.resolveWritten line target operation arguments = .ok index) :
    run.drawsOn name (.call line target operation arguments) =
      run.drawsOn name (.invoke line target index arguments) := by
  obtain ⟨types, -, hresolve⟩ := exists_of_bind_ok hindex
  obtain ⟨t, s, ht, hs, hnamed, -⟩ := resolve_ok hresolve
  simp only [drawsOn, ← drawsAt_of_isNamed hs hnamed]
  by_cases htarget : target = name
  · subst htarget
    rw [ht, Option.any_some]
  · rw [beq_eq_false_iff_ne.mpr htarget, Bool.false_and, Bool.false_and]

/-- A call by index leaves every variable its source, but for a target that is drawn on. -/
theorem source?_invoke (run : Run) (line : Line) (target : String) (index : Nat)
    (arguments : List Argument) {own : Random.Source} (hown : run.source? name = some own) :
    ∃ s, (run.invoke line target index arguments).1.source? name = some s ∧ s.key = own.key ∧
      (run.drawsOn name (.invoke line target index arguments) = false → s = own) := by
  rcases run.invoke_cases line target index arguments with
    hsame | ⟨values, before, issued, messages, hbefore, hinvoked⟩
  · rw [hsame]
    exact ⟨own, hown, rfl, fun _ => rfl⟩
  · have hset : (run.invoke line target index arguments).1.source? name =
        if name = target then
          (execute run.job run.world before index values).target.source? else run.source? name := by
      rw [hinvoked]
      exact bind_get?_set Value.source? hbefore
    rw [hset]
    split
    · rename_i htarget
      subst htarget
      have hbeforeOwn : before.source? = some own := by
        rw [← hown, source?, hbefore]
        rfl
      obtain ⟨s, hs, hkey, hkept⟩ := source?_execute run.job run.world index values hbeforeOwn
      refine ⟨s, hs, hkey, ?_⟩
      intro hdraws
      apply hkept
      rw [drawsOn, beq_self_eq_true, Bool.true_and, typeOf?, hbefore] at hdraws
      exact hdraws
    · exact ⟨own, hown, rfl, fun _ => rfl⟩

/-- **A variable keeps its source**: no step gives it another one, and only draws on the variable
move it on. -/
theorem source?_perform (run : Run) (step : Step) {own : Random.Source}
    (hown : run.source? name = some own) :
    ∃ s, (run.perform step).1.source? name = some s ∧ s.key = own.key ∧
      (run.drawsOn name step = false → s = own) := by
  cases step with
  | declare line other keyword =>
    refine ⟨own, ?_, rfl, fun _ => rfl⟩
    rcases run.perform_declare line other keyword with
      ⟨d, hrefused⟩ | ⟨t, run', -, hdeclare, hperformed⟩
    · rw [hrefused, hown]
    · -- The new variable comes last, so the one that was there is found as before
      obtain ⟨-, source, issued, rfl⟩ := declare_ok hdeclare
      obtain ⟨before, hbefore, hbeforeOwn⟩ := Option.bind_eq_some_iff.mp hown
      have hfirst : run.variables.lookup name = some before := hbefore
      rw [hperformed, source?, get?, List.lookup_append, hfirst]
      exact hbeforeOwn
  | call line target operation arguments =>
    rcases run.perform_call line target operation arguments with
      ⟨d, hrefused⟩ | ⟨index, hindex, hperformed⟩
    · rw [hrefused]
      exact ⟨own, hown, rfl, fun _ => rfl⟩
    · rw [hperformed, drawsOn_call hindex]
      exact run.source?_invoke line target index arguments hown
  | invoke line target index arguments =>
    exact run.source?_invoke line target index arguments hown
  | assign line target argument =>
    refine ⟨own, ?_, rfl, fun _ => rfl⟩
    simp only [perform]
    cases hassign : run.assign line target argument with
    | error failure => exact hown
    | ok run' =>
      obtain ⟨value, before, after, -, hbefore, hafter, rfl⟩ := assign_ok hassign
      refine (bind_get?_set Value.source? hbefore).trans ?_
      split
      · -- The source of a value is its own, which an assignment leaves in place
        rename_i htarget
        subst htarget
        rw [← hown, source?, hbefore]
        exact congrArg Own.source (Value.assign_eq_ok_iff.mp hafter).2.2
      · exact hown
  | wait span => exact ⟨own, hown, rfl, fun _ => rfl⟩
  | requestStop requested => exact ⟨own, hown, rfl, fun _ => rfl⟩
  | stopTrackers =>
    refine ⟨own, ?_, rfl, fun _ => rfl⟩
    rw [← hown]
    refine bind_lookup_sweep_self ?_ run.variables run.world
    intro v w
    rw [stopVariable_eq]
    cases v <;> rfl
  | releaseSessions =>
    refine ⟨own, ?_, rfl, fun _ => rfl⟩
    rw [← hown]
    refine bind_lookup_sweep_self ?_ run.variables run.world
    intro v w
    rw [releaseVariable_eq]
    cases v <;> rfl

end Run

end JobScript
