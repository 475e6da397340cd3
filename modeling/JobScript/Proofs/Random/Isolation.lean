import JobScript.Proofs.Random.Accounting
import JobScript.Proofs.Run.Messages

/-!
# Draws Stay with Their Variable

What a variable draws, nobody else can tell. Blot out the random source of one variable, and with it
all that was said to the job: every step that does not draw on the variable gives the same on what
is left, and leaves the same; a step that does draw leaves no trace on it. So draws on a variable can
be put into a script or taken out of it, and nothing else that the script does is any different.

## Architecture

- `Run.view`: a run without the source of one variable
- `Run.perform_view`: steps that do not draw on the variable
- `Run.view_perform_of_drawsOn`: steps that do
- `Run.withoutDraws`, `Run.resultsApart`: scripts and their results without the draws on a variable
- `Run.resultsApart_eq_results_withoutDraws`: the draws taken out of a script
- `Run.random_sources_accounted_and_isolated`: sources and draws, all of it together
-/

namespace JobScript

/-- Computations that look the same fail alike or give values that look the same. -/
theorem cases_of_map_eq {ε α β : Type} {f : α → β} {first second : Except ε α}
    (h : f <$> first = f <$> second) :
    (∃ e, second = .error e ∧ first = .error e) ∨
      ∃ b a, second = .ok b ∧ first = .ok a ∧ f a = f b := by
  cases first with
  | error e =>
    cases second with
    | error e' =>
      obtain rfl := Except.error.inj h
      exact .inl ⟨e, rfl, rfl⟩
    | ok b => cases h
  | ok a =>
    cases second with
    | error e => cases h
    | ok b => exact .inr ⟨b, a, rfl, rfl, Except.ok.inj h⟩

/-! ## Section 1: Values without sources -/

namespace Value

/-- The value with its random source blotted out, if it has one. -/
def unsourced (value : Value) : Value :=
  value.withSource (.ofSeed 0)

@[simp]
theorem unsourced_unsourced (value : Value) : value.unsourced.unsourced = value.unsourced :=
  withSource_withSource

@[simp]
theorem type_unsourced (value : Value) : value.unsourced.type = value.type :=
  type_withSource

variable {target source source' : Value}

/-- An assignment leaves the source of its target in place and never looks at it. -/
theorem assign_unsourced :
    target.unsourced.assign source = unsourced <$> target.assign source := by
  cases target with
  | tracker h =>
    cases source with
    | tracker other =>
      show (if h.kind = other.kind then _ else _) =
        unsourced <$> (if h.kind = other.kind then _ else _)
      split <;> rfl
    | _ => rfl
  | _ => cases source <;> rfl

/-- An assignment takes over nothing of the source of its right side. -/
theorem assign_of_unsourced (h : source'.unsourced = source.unsourced) :
    target.assign source' = target.assign source := by
  have hsame (v : Value) : target.assign v.unsourced = target.assign v := by
    cases v with
    | textList l => cases target <;> rfl
    | script s => cases target <;> rfl
    | _ => rfl
  rw [← hsame source', h, hsame]

theorem fedBy_unsourced (value : Value) : Run.fedBy value.unsourced = Run.fedBy value := by
  cases value <;> rfl

end Value

/-- No operation looks at the random source of an argument. -/
theorem execute_of_unsourced (job : Job) (w : World) (target : Value) (index : Nat)
    {values values' : List Value}
    (h : values'.map Value.unsourced = values.map Value.unsourced) :
    execute job w target index values' = execute job w target index values := by
  have hsame (arguments : List Value) :
      execute job w target index (arguments.map Value.unsourced) =
        execute job w target index arguments :=
    execute_arguments_withSource arguments _ job w target index
  rw [← hsame values', h, hsame]

namespace Run

variable {run run' : Run} {x name : String}

/-! ## Section 2: Runs without the source of a variable -/

/-- A value as it looks without the source of the variable `x`. -/
def blur (x name : String) (value : Value) : Value :=
  if name = x then value.unsourced else value

theorem blur_of_ne (hname : name ≠ x) : blur x name = id := by
  funext value
  exact if_neg hname

theorem blur_self : blur x x = Value.unsourced := by
  funext value
  exact if_pos rfl

/-- What cannot be told from a value without its source is told from it all the same. -/
theorem apply_blur {γ : Type} {f : Value → γ} (hf : ∀ v : Value, f v.unsourced = f v) (value : Value) :
    f (blur x name value) = f value := by
  unfold blur
  split
  · exact hf value
  · rfl

/-- What leaves the source of a value in place may as well be done without it. -/
theorem blur_apply {f : Value → Value} (hf : ∀ v : Value, f v.unsourced = (f v).unsourced)
    (value : Value) : f (blur x name value) = blur x name (f value) := by
  unfold blur
  split
  · exact hf value
  · rfl

theorem blur_blur (value : Value) : blur x name (blur x name value) = blur x name value := by
  unfold blur
  split
  · exact value.unsourced_unsourced
  · rfl

/-- Variables as they look without the source of the variable `x`. -/
def blurAll (x : String) (entries : List (String × Value)) : List (String × Value) :=
  entries.map fun entry => (entry.1, blur x entry.1 entry.2)

theorem blurAll_blurAll (entries : List (String × Value)) :
    blurAll x (blurAll x entries) = blurAll x entries := by
  rw [blurAll, blurAll, List.map_map]
  apply List.map_congr_left
  intro entry hentry
  exact congrArg (Prod.mk entry.1) (blur_blur entry.2)

/-- The run without the random source of the variable `x`, and as if nothing had been said. -/
def view (x : String) (run : Run) : Run :=
  { run with «variables» := blurAll x run.variables, world := run.world.quiet }

theorem view_view (run : Run) : (run.view x).view x = run.view x := by
  simp only [view, blurAll_blurAll, World.quiet_quiet]

theorem get?_view (run : Run) : (run.view x).get? name = (run.get? name).map (blur x name) := by
  show (blurAll x run.variables).lookup name = (run.variables.lookup name).map _
  induction run.variables with
  | nil => rfl
  | cons entry rest ih =>
    rw [blurAll, List.map_cons, List.lookup_cons, List.lookup_cons]
    split
    · rename_i hname
      rw [beq_iff_eq.mp hname, Option.map_some]
    · exact ih

theorem typeOf?_view (run : Run) : (run.view x).typeOf? name = run.typeOf? name := by
  rw [typeOf?, typeOf?, get?_view, Option.map_map]
  congr 1
  funext value
  exact apply_blur Value.type_unsourced value

/-- Runs that look the same have the same values, but for the one variable. -/
theorem get?_eq_of_view (h : run.view x = run'.view x) (hname : name ≠ x) :
    run.get? name = run'.get? name := by
  have hsame : (run.view x).get? name = (run'.view x).get? name := by rw [h]
  rwa [get?_view, get?_view, blur_of_ne hname, Option.map_id, id_eq, id_eq] at hsame

theorem view_set (run : Run) (value : Value) :
    (run.set name value).view x = (run.view x).set name (blur x name value) := by
  simp only [view, blurAll, set, replace, List.map_map, Run.mk.injEq, true_and, and_true]
  apply List.map_congr_left
  intro entry hentry
  simp only [Function.comp_apply]
  split
  · rename_i hname
    rw [hname]
  · rfl

/-! ## Section 3: Reading -/

theorem argument_view (run : Run) (line : Line) (a : Argument) :
    Value.unsourced <$> (run.view x).argument line a = Value.unsourced <$> run.argument line a := by
  cases a with
  | literal l => rfl
  | «variable» name =>
    simp only [argument, get?_view]
    cases run.get? name with
    | none => rfl
    | some value => exact congrArg Except.ok (apply_blur Value.unsourced_unsourced value)

theorem evaluate_view (run : Run) (line : Line) (arguments : List Argument) :
    List.map Value.unsourced <$> (run.view x).evaluate line arguments =
      List.map Value.unsourced <$> run.evaluate line arguments := by
  induction arguments with
  | nil => rfl
  | cons a rest ih =>
    simp only [evaluate]
    rcases cases_of_map_eq (run.argument_view line a) with
      ⟨failure, hvalue, hvalue'⟩ | ⟨value, value', hvalue, hvalue', hsame⟩
    · rw [hvalue, hvalue']
      rfl
    · rw [hvalue, hvalue']
      rcases cases_of_map_eq ih with
        ⟨failure, hvalues, hvalues'⟩ | ⟨values, values', hvalues, hvalues', hrest⟩
      · rw [hvalues, hvalues']
        rfl
      · rw [hvalues, hvalues']
        exact congrArg Except.ok (congrArg₂ List.cons hsame hrest)

theorem argumentType_view (run : Run) (line : Line) (a : Argument) :
    (run.view x).argumentType line a = run.argumentType line a := by
  cases a with
  | literal l => rfl
  | «variable» name => simp only [argumentType, typeOf?_view]

theorem resolveWritten_view (run : Run) (line : Line) (target operation : String)
    (arguments : List Argument) :
    (run.view x).resolveWritten line target operation arguments =
      run.resolveWritten line target operation arguments := by
  have htypes : (run.view x).argumentTypes line arguments = run.argumentTypes line arguments := by
    induction arguments with
    | nil => rfl
    | cons a rest ih => simp only [argumentTypes, argumentType_view, ih]
  simp only [resolveWritten, resolve, htypes, typeOf?_view]

/-! ## Section 4: Calls -/

variable {line : Line} {target : String} {index : Nat} {arguments : List Argument}
  {values : List Value} {before : Value}

theorem settled_quiet (job : Job) (line : Line) (outcome : Outcome Value) :
    settled job line outcome.quiet =
      ((settled job line outcome).1, (settled job line outcome).2.quiet) := by
  simp only [settled, Outcome.quiet]
  cases outcome.result with
  | error cause => rfl
  | ok result => cases result <;> rfl

/-- The trace of a call cannot be seen. -/
theorem invoke_settled_view (index : Nat) (hvalues : run.evaluate line arguments = .ok values)
    (hbefore : run.get? target = some before) :
    let outcome := execute run.job run.world before index values
    let invoked := run.invoke line target index arguments
    invoked.2 = (settled run.job line outcome).1 ∧
      invoked.1.view x =
        { (run.view x).set target (blur x target outcome.target) with
          world := (settled run.job line outcome).2.quiet } := by
  intro outcome invoked
  obtain ⟨messages, hinvoked⟩ := invoke_settled index hvalues hbefore
  simp only [invoked, hinvoked, ← view_set]
  exact ⟨rfl, rfl⟩

/-- An operation that does not draw on the variable `x` comes to the same outcome without the source
of `x`, whatever was said before. -/
theorem quiet_execute_blur (job : Job) (w : World) {values' : List Value}
    (hdraws : target = x → drawsAt before.type index = false)
    (hsame : values'.map Value.unsourced = values.map Value.unsourced) :
    (execute job w.quiet (blur x target before) index values').quiet =
      ((execute job w before index values).map (blur x target)).quiet := by
  rw [execute_quiet, execute_of_unsourced _ _ _ _ hsame]
  by_cases htarget : target = x
  · have hmap := execute_withSource job w before values (.ofSeed 0) (hdraws htarget)
    subst htarget
    rw [blur_self]
    exact congrArg Outcome.quiet hmap
  · rw [blur_of_ne htarget]
    rfl

/-- **A call that does not draw on a variable** gives the same without the source of that variable,
and leaves the same. -/
theorem invoke_view (run : Run) (h : run.drawsOn x (.invoke line target index arguments) = false) :
    ((run.view x).invoke line target index arguments).2 =
        (run.invoke line target index arguments).2 ∧
      ((run.view x).invoke line target index arguments).1.view x =
        (run.invoke line target index arguments).1.view x := by
  rcases cases_of_map_eq (run.evaluate_view (x := x) line arguments) with
    ⟨failure, hvalues, hvalues'⟩ | ⟨values, values', hvalues, hvalues', hsame⟩
  · rw [invoke_of_evaluate_error target index hvalues, invoke_of_evaluate_error target index hvalues']
    exact ⟨rfl, run.view_view⟩
  · have hget : (run.view x).get? target = (run.get? target).map (blur x target) := run.get?_view
    cases hbefore : run.get? target with
    | none =>
      rw [hbefore] at hget
      have hnone : (run.view x).get? target = none := hget
      rw [invoke_of_undeclared index hvalues hbefore, invoke_of_undeclared index hvalues' hnone]
      exact ⟨rfl, run.view_view⟩
    | some before =>
      rw [hbefore] at hget
      have hbefore' : (run.view x).get? target = some (blur x target before) := hget
      have hdraws (htarget : target = x) : drawsAt before.type index = false := by
        subst htarget
        rwa [drawsOn, beq_self_eq_true, Bool.true_and, typeOf?, hbefore] at h
      have houtcome := quiet_execute_blur run.job run.world hdraws hsame
      -- What is the same but for messages settles to the same but for messages
      have hsettled := congrArg (settled run.job line) houtcome
      simp only [settled_quiet] at hsettled
      obtain ⟨hgiven, hworld⟩ := Prod.mk.inj hsettled
      obtain ⟨hresult, hrun⟩ := invoke_settled_view (x := x) index hvalues hbefore
      obtain ⟨hresult', hrun'⟩ := invoke_settled_view (x := x) index hvalues' hbefore'
      constructor
      · exact (hresult'.trans hgiven).trans hresult.symm
      · -- The target was left without its source, and looks the same when it is taken away again
        have htarget := (congrArg (blur x target) (congrArg Outcome.target houtcome)).trans
          (blur_blur _)
        rw [hrun, hrun', view_view]
        exact congrArg₂ (fun value w => { (run.view x).set target value with world := w }) htarget
          hworld

/-! ## Section 5: The other steps -/

/-- Declarations give the same variable, or are refused alike. -/
theorem declare_view (run : Run) (line : Line) (name : String) (t : ValueType) :
    view x <$> (run.view x).declare line name t = view x <$> run.declare line name t := by
  simp only [declare, get?_view, Option.isSome_map]
  split
  · rfl
  · split
    · rfl
    · -- Both add the same variable to what looks the same
      apply congrArg Except.ok
      have happend (entries added : List (String × Value)) :
          blurAll x (entries ++ added) = blurAll x entries ++ blurAll x added :=
        List.map_append
      simp only [view, happend, blurAll_blurAll, Run.mk.injEq, true_and]
      split <;> exact ⟨rfl, rfl⟩

theorem assign_blur {before value value' : Value} (hsame : value'.unsourced = value.unsourced) :
    (blur x target before).assign value' = blur x target <$> before.assign value := by
  unfold blur
  split
  · rw [Value.assign_unsourced, Value.assign_of_unsourced hsame]
  · rw [Value.assign_of_unsourced hsame]
    exact (id_map _).symm

/-- Assignments go alike: the right side hands over nothing of its source, and the left side keeps
its own. -/
theorem assign_view (run : Run) (line : Line) (target : String) (source : Argument) :
    view x <$> (run.view x).assign line target source =
      view x <$> run.assign line target source := by
  simp only [assign]
  rcases cases_of_map_eq (run.argument_view (x := x) line source) with
    ⟨failure, hvalue, hvalue'⟩ | ⟨value, value', hvalue, hvalue', hsame⟩
  · rw [hvalue, hvalue']
    rfl
  · simp only [hvalue, hvalue', get?_view, bind, Except.bind]
    cases hbefore : run.get? target with
    | none => rfl
    | some before =>
      simp only [Option.map_some, assign_blur hsame]
      cases before.assign value with
      | error cause => rfl
      | ok after =>
        -- What is retired is read off statistics, which have nothing to do with sources
        have hset : ((run.view x).set target (blur x target after)).view x =
            (run.set target after).view x := by
          rw [view_set, view_view, blur_blur, view_set]
        simp only [Functor.map, Except.map, pure, Except.pure, apply_blur Value.fedBy_unsourced]
        apply congrArg Except.ok
        exact (Run.mk.injEq ..).mpr
          ⟨rfl, congrArg Run.variables hset, rfl, congrArg Run.world hset⟩

/-- A visit of all variables goes alike, if what it does to each and to the shared state has nothing
to do with sources and messages. -/
theorem sweep_view {change : Value → World → Value × World} {after : Value → Value}
    {reached : Value → Option Nat} {act : World → Nat → World}
    (hchange : ∀ v w, change v w = (after v, (reached v).elim w (act w)))
    (hafter : ∀ v, after v.unsourced = (after v).unsourced)
    (hreached : ∀ v : Value, reached v.unsourced = reached v)
    (hact : ∀ (w : World) id, act w.quiet id = (act w id).quiet) (run : Run) :
    sweep change (run.view x).variables (run.view x).world =
      (blurAll x (sweep change run.variables run.world).1,
        (sweep change run.variables run.world).2.quiet) := by
  rw [sweep_eq hchange, sweep_eq hchange]
  simp only [view, blurAll, List.map_map, List.filterMap_map, Function.comp_def, blur_apply hafter,
    apply_blur hreached, World.foldl_quiet hact]

theorem stopTrackers_view (run : Run) :
    (run.view x).stopTrackers = run.stopTrackers.view x := by
  have hswept := run.sweep_view (x := x) stopVariable_eq (by intro v; cases v <;> rfl)
    (by intro v; cases v <;> rfl) World.stopStatistics_quiet
  have hrunning (w : World) (id : TrackerId) :
      stopRunning w.quiet id = (stopRunning w id).quiet := by
    rw [World.stopRunning_eq, World.stopRunning_eq, World.stopStatistics_quiet]
  simp only [stopTrackers, hswept, World.foldl_quiet hrunning]
  rfl

theorem releaseSessions_view (run : Run) :
    (run.view x).releaseSessions = run.releaseSessions.view x := by
  have hswept := run.sweep_view (x := x) releaseVariable_eq (by intro v; cases v <;> rfl)
    (by intro v; cases v <;> rfl) World.closeConnection_quiet
  simp only [releaseSessions, hswept]
  rfl

/-- **A step that does not draw on a variable** gives the same without the source of that variable,
and leaves the same. -/
theorem perform_view (run : Run) {step : Step} (h : run.drawsOn x step = false) :
    ((run.view x).perform step).2 = (run.perform step).2 ∧
      ((run.view x).perform step).1.view x = (run.perform step).1.view x := by
  cases step with
  | declare line name keyword =>
    simp only [perform, declareWritten]
    cases ValueType.ofKeyword? keyword with
    | none => exact ⟨rfl, run.view_view⟩
    | some t =>
      rcases cases_of_map_eq (run.declare_view (x := x) line name t) with
        ⟨d, hdeclare, hdeclare'⟩ | ⟨after, after', hdeclare, hdeclare', hsame⟩
      · simp only [hdeclare, hdeclare']
        exact ⟨trivial, run.view_view⟩
      · simp only [hdeclare, hdeclare']
        exact ⟨trivial, hsame⟩
  | call line target operation arguments =>
    simp only [perform, resolveWritten_view]
    cases hindex : run.resolveWritten line target operation arguments with
    | error d => exact ⟨rfl, run.view_view⟩
    | ok index =>
      rw [drawsOn_call hindex] at h
      obtain ⟨hgiven, hleft⟩ := run.invoke_view h
      exact ⟨congrArg (Except.mapError Report.failure) hgiven, hleft⟩
  | invoke line target index arguments =>
    obtain ⟨hgiven, hleft⟩ := run.invoke_view h
    exact ⟨congrArg (Except.mapError Report.failure) hgiven, hleft⟩
  | assign line target source =>
    simp only [perform]
    rcases cases_of_map_eq (run.assign_view (x := x) line target source) with
      ⟨failure, hassign, hassign'⟩ | ⟨after, after', hassign, hassign', hsame⟩
    · simp only [hassign, hassign']
      exact ⟨trivial, run.view_view⟩
    · simp only [hassign, hassign']
      exact ⟨trivial, hsame⟩
  | wait | requestStop =>
    exact ⟨rfl, (Run.mk.injEq ..).mpr ⟨rfl, blurAll_blurAll _, rfl, rfl⟩⟩
  | stopTrackers =>
    refine ⟨rfl, ?_⟩
    simp only [perform, stopTrackers_view, view_view]
  | releaseSessions =>
    refine ⟨rfl, ?_⟩
    simp only [perform, releaseSessions_view, view_view]

/-! ## Section 6: Draws -/

/-- A call by index that draws on a variable changes the source of that variable only. -/
theorem view_invoke_of_drawsOn (hnames : (run.variables.map Prod.fst).Nodup)
    (h : run.drawsOn x (.invoke line target index arguments) = true) :
    (run.invoke line target index arguments).1.view x = run.view x := by
  rw [drawsOn, Bool.and_eq_true, beq_iff_eq] at h
  obtain ⟨rfl, hdraws⟩ := h
  obtain ⟨t, ht, hdraws⟩ := (Option.any_eq_true _ _).mp hdraws
  obtain ⟨before, hbefore, rfl⟩ := Option.map_eq_some_iff.mp ht
  cases hvalues : run.evaluate line arguments with
  | error failure => rw [invoke_eq_self (.inl ⟨failure, hvalues⟩)]
  | ok values =>
    obtain ⟨hworld, hresult, own, s, -, -, htarget⟩ :=
      execute_of_drawsAt run.job run.world before values hdraws
    have hsettled : (settled run.job line (execute run.job run.world before index values)).2 =
        run.world := by
      unfold settled
      cases hgiven : (execute run.job run.world before index values).result with
      | error cause => exact hworld
      | ok result =>
        -- What is drawn is a value and no new list, so it takes no source
        obtain ⟨v, rfl⟩ := hresult result hgiven
        exact hworld
    have hblur : blur target target (before.withSource s) = blur target target before := by
      rw [blur_self]
      exact Value.withSource_withSource
    rw [(invoke_settled_view index hvalues hbefore).2, hsettled, htarget, hblur, ← view_set,
      set_eq_self hnames hbefore]
    rfl

/-- **A draw on a variable** leaves no trace on what is left without the source of the variable. -/
theorem view_perform_of_drawsOn (hnames : (run.variables.map Prod.fst).Nodup) {step : Step}
    (h : run.drawsOn x step = true) : (run.perform step).1.view x = run.view x := by
  cases step with
  | call line target operation arguments =>
    rcases run.perform_call line target operation arguments with
      ⟨d, hrefused⟩ | ⟨index, hindex, hperformed⟩
    · rw [hrefused]
    · rw [hperformed]
      rw [drawsOn_call hindex] at h
      exact view_invoke_of_drawsOn hnames h
  | invoke line target index arguments => exact view_invoke_of_drawsOn hnames h
  | _ => cases h

/-! ## Section 7: Scripts -/

/-- What the steps of a script give, one after the other. -/
def results (run : Run) : List Step → List (Except Report (Option Value))
  | [] => []
  | step :: steps => (run.perform step).2 :: (run.perform step).1.results steps

/-- What the steps of a script give, but for draws on a variable. -/
def resultsApart (x : String) (run : Run) : List Step → List (Except Report (Option Value))
  | [] => []
  | step :: steps =>
    let rest := (run.perform step).1.resultsApart x steps
    if run.drawsOn x step then rest else (run.perform step).2 :: rest

/-- The script without its draws on a variable. -/
def withoutDraws (x : String) (run : Run) : List Step → List Step
  | [] => []
  | step :: steps =>
    let rest := (run.perform step).1.withoutDraws x steps
    if run.drawsOn x step then rest else step :: rest

theorem drawsOn_view (run : Run) (step : Step) :
    (run.view x).drawsOn x step = run.drawsOn x step := by
  cases step <;> simp only [drawsOn, typeOf?_view]

/-- **Draws can be taken out of a script**: its other steps give the same without them, and the
variables are the same in the end, but for the source of the one. -/
theorem resultsApart_eq_results_withoutDraws (h : run.Consistent) (hsame : run.view x = run'.view x)
    (steps : List Step) :
    run.resultsApart x steps = run'.results (run.withoutDraws x steps) ∧
      (run.performAll steps).view x =
        (run'.performAll (run.withoutDraws x steps)).view x := by
  induction steps generalizing run run' with
  | nil => exact ⟨rfl, hsame⟩
  | cons step steps ih =>
    simp only [resultsApart, withoutDraws]
    have hrest := h.perform step
    cases hdraws : run.drawsOn x step with
    | true =>
      -- The script without draws waits
      have hleft := view_perform_of_drawsOn h.names hdraws
      exact ih hrest (hleft.trans hsame)
    | false =>
      -- Both scripts take the step, on what looks the same
      have hdraws' : run'.drawsOn x step = false := by
        rw [← drawsOn_view, ← hsame, drawsOn_view, hdraws]
      obtain ⟨hgiven, hleft⟩ := run.perform_view hdraws
      obtain ⟨hgiven', hleft'⟩ := run'.perform_view hdraws'
      rw [hsame] at hgiven hleft
      obtain ⟨hresults, hend⟩ := ih hrest (hleft.symm.trans hleft')
      refine ⟨?_, hend⟩
      exact congrArg₂ List.cons (hgiven.symm.trans hgiven') hresults

/-- The sources of a run with a seed, by how many were taken before. -/
theorem nextSource_performAll {job : Job} {seed : UInt64} (network : Pop.Network)
    (hseed : job.settings.seed = some seed) (steps : List Step) :
    ((initial job network).performAll steps).nextSource =
      .ofSeed (seed ^^^
        (UInt64.ofNat ((initial job network).sourcesTaken steps) * 0x9E3779B97F4A7C15)) := by
  have hissued : ((initial job network).performAll steps).world.issued =
      (initial job network).sourcesTaken steps :=
    (issued_performAll _ steps).trans (Nat.zero_add _)
  have hrunSeed : job.settings.runSeed = seed := by
    rw [Settings.runSeed, hseed, Option.getD_some]
  rw [nextSource, job_performAll, World.nextSource, hissued]
  show Random.Source.ofSeed (Random.seedOf job.settings.runSeed _) = _
  rw [hrunSeed]
  rfl

/-- **Random sources are accounted for, and draws stay with their variable.** In a run with a seed,
the source that is handed out next has a seed made of that of the run and of how many steps have
taken a source so far, and of nothing else: a list or a script that is declared has it, and so has a
list that a call gives. From then on a variable keeps its source, whatever is assigned to it or
copied from it, and only draws on the variable move it on. So if two scripts are the same but for
draws on one variable, then all their other steps give the same, one by one, and all other variables
are the same in the end. -/
theorem random_sources_accounted_and_isolated (job : Job) (network : Pop.Network) {seed : UInt64}
    (hseed : job.settings.seed = some seed) (steps : List Step) :
    let start := initial job network
    let run := start.performAll steps
    let next := Random.Source.ofSeed
      (seed ^^^ (UInt64.ofNat (start.sourcesTaken steps) * 0x9E3779B97F4A7C15))
    (∀ line name keyword, (run.perform (.declare line name keyword)).2 = .ok none →
      ∃ t, ValueType.ofKeyword? keyword = some t ∧
        (run.perform (.declare line name keyword)).1.get? name =
          some (Value.declared t name next)) ∧
    (∀ step l, (run.perform step).2 = .ok (some (.textList l)) → l.source = next) ∧
    (∀ step name own, run.source? name = some own →
      ∃ s, (run.perform step).1.source? name = some s ∧ s.key = own.key ∧
        (run.drawsOn name step = false → s = own)) ∧
    ∀ x steps', start.withoutDraws x steps = start.withoutDraws x steps' →
      start.resultsApart x steps = start.resultsApart x steps' ∧
        ∀ name, name ≠ x → run.get? name = (start.performAll steps').get? name := by
  intro start run next
  have hnext : run.nextSource = next := nextSource_performAll network hseed steps
  refine ⟨?declared, ?given, ?kept, ?isolated⟩
  case declared =>
    intro line name keyword hok
    rcases run.perform_declare line name keyword with
      ⟨d, hrefused⟩ | ⟨t, run', ht, hdeclare, hperformed⟩
    · rw [hrefused] at hok
      cases hok
    · rw [hperformed, (declare_of_ok hdeclare).1, hnext]
      exact ⟨t, ht, rfl⟩
  case given =>
    intro step l hl
    rw [← hnext]
    exact source_of_list hl
  case kept =>
    intro step name own hown
    exact run.source?_perform step hown
  case isolated =>
    intro x steps' hscripts
    have hstart := consistent_initial job network
    obtain ⟨hresults, hend⟩ := resultsApart_eq_results_withoutDraws (x := x) hstart rfl steps
    obtain ⟨hresults', hend'⟩ := resultsApart_eq_results_withoutDraws (x := x) hstart rfl steps'
    rw [← hscripts] at hresults' hend'
    refine ⟨hresults.trans hresults'.symm, ?_⟩
    intro name hname
    exact get?_eq_of_view (hend.trans hend'.symm) hname

/-- Two numbers are drawn, and nobody notices but the script that draws them: the list that is
declared afterwards has the second source of the run with them and without them, and draws the same
from it. -/
theorem drawn_numbers_stay_with_their_script :
    let job : Job := { settings := { seed := some 42 } }
    let start := initial job {}
    let roll : Step :=
      .call ⟨2⟩ "dice" "randomInt" [.literal (.int 1), .literal (.int 6)]
    let declared : List Step := [.declare ⟨1⟩ "dice" "script"]
    let rest : List Step := [.declare ⟨3⟩ "names" "stringarray",
      .call ⟨4⟩ "names" "addValue" [.literal (.text "Ada")], .call ⟨5⟩ "names" "randomValue" []]
    start.resultsApart "dice" (declared ++ [roll, roll] ++ rest) =
        start.resultsApart "dice" (declared ++ rest) ∧
      (start.performAll (declared ++ [roll, roll] ++ rest)).get? "names" =
        (start.performAll (declared ++ rest)).get? "names" ∧
      start.sourcesTaken (declared ++ [roll, roll] ++ rest) = 2 := by
  intro job start roll declared rest
  have hseed : job.settings.seed = some 42 := rfl
  obtain ⟨-, -, -, hisolated⟩ := random_sources_accounted_and_isolated job {} hseed
    (declared ++ [roll, roll] ++ rest)
  have hscripts : start.withoutDraws "dice" (declared ++ [roll, roll] ++ rest) =
      start.withoutDraws "dice" (declared ++ rest) := by decide +kernel
  obtain ⟨hresults, hvalues⟩ := hisolated "dice" (declared ++ rest) hscripts
  exact ⟨hresults, hvalues "names" (by decide), by decide +kernel⟩

end Run

end JobScript
