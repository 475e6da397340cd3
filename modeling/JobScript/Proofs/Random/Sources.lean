import JobScript.Proofs.Run.Assignment
import JobScript.Proofs.Run.Idle
import JobScript.Proofs.Typing.Execution
import Mathlib.Control.Basic

/-!
# Operations and Random Sources

Lists and scripts have a random source of their own. Nothing but a draw looks at it: an operation
does the same on a list with another source, and keeps that source; and it does the same with a list
for an argument, whatever the source of that list. A draw changes how much of the source is drawn,
and nothing else.

## Architecture

- `Value.withSource`, `Value.source?`: the source of a value
- `Arguments.textList_withSource` and its siblings: arguments read without their sources
- `execute_arguments_withSource`: the sources of arguments do not matter
- `drawing`, `drawsAt`: the operations that draw
- `execute_withSource`: the source of the target does not matter unless the operation draws
- `Outcome.IsDraw`, `execute_of_drawsAt`: what a draw does
-/

namespace JobScript

/-! ## Section 1: Sources of values -/

/-- The list with another random source. -/
def TextList.withSource (l : TextList) (s : Random.Source) : TextList :=
  { l with source := s }

namespace Value

/-- The value with another random source, if it has one. -/
def withSource (value : Value) (s : Random.Source) : Value :=
  match value with
  | .textList l => .textList (l.withSource s)
  | .script _ => .script s
  | value => value

/-- The random source that a value draws from. -/
def source? (value : Value) : Option Random.Source :=
  value.own.source

variable {value : Value} {s s' : Random.Source}

@[simp]
theorem type_withSource : (value.withSource s).type = value.type := by
  cases value <;> rfl

@[simp]
theorem withSource_withSource : (value.withSource s).withSource s' = value.withSource s' := by
  cases value <;> rfl

theorem withSource_eq_self (h : value.source? = some s) : value.withSource s = value := by
  cases value with
  | textList l =>
    obtain rfl := Option.some.inj h
    rfl
  | script source =>
    obtain rfl := Option.some.inj h
    rfl
  | _ => rfl

/-- A value that has a source has the one that it is given. -/
theorem source?_withSource (h : value.source?.isSome) : (value.withSource s).source? = some s := by
  cases value with
  | textList l => rfl
  | script source => rfl
  | _ => cases h

theorem isSome_source? : value.source?.isSome = value.type.drawsRandomly := by
  cases value <;> rfl

end Value

/-! ## Section 2: Reading arguments -/

namespace Arguments

variable (operation : String) (arguments : List Value) (i : Nat) (s : Random.Source)

theorem boolean_withSource :
    boolean operation (arguments.map (·.withSource s)) i = boolean operation arguments i := by
  rw [boolean, boolean, wrongType, wrongType, List.getElem?_map]
  cases arguments[i]? with
  | none => rfl
  | some v => cases v <;> rfl

theorem int_withSource :
    int operation (arguments.map (·.withSource s)) i = int operation arguments i := by
  rw [int, int, wrongType, wrongType, List.getElem?_map]
  cases arguments[i]? with
  | none => rfl
  | some v => cases v <;> rfl

theorem text_withSource :
    text operation (arguments.map (·.withSource s)) i = text operation arguments i := by
  rw [text, text, wrongType, wrongType, List.getElem?_map]
  cases arguments[i]? with
  | none => rfl
  | some v => cases v <;> rfl

theorem string_withSource :
    string operation (arguments.map (·.withSource s)) i = string operation arguments i := by
  rw [string, string, text_withSource]

theorem mailMessage_withSource :
    mailMessage operation (arguments.map (·.withSource s)) i =
      mailMessage operation arguments i := by
  rw [mailMessage, mailMessage, wrongType, wrongType, List.getElem?_map]
  cases arguments[i]? with
  | none => rfl
  | some v => cases v <;> rfl

/-- A list is the one kind of argument that is read with its source. -/
theorem textList_withSource :
    textList operation (arguments.map (·.withSource s)) i =
      (·.withSource s) <$> textList operation arguments i := by
  rw [textList, textList, wrongType, wrongType, List.getElem?_map]
  cases arguments[i]? with
  | none => rfl
  | some v => cases v <;> rfl

end Arguments

/-! ## Section 3: Sources of arguments -/

section

variable (arguments : List Value) (s : Random.Source)

theorem BooleanOperation.run_arguments (op : BooleanOperation) (b : Bool) :
    op.run b (arguments.map (·.withSource s)) = op.run b arguments := by
  simp only [run, Arguments.boolean_withSource, Arguments.text_withSource]

theorem IntOperation.run_arguments (op : IntOperation) (n : Int32) :
    op.run n (arguments.map (·.withSource s)) = op.run n arguments := by
  simp only [run, operands, Arguments.int_withSource, Arguments.text_withSource, List.length_map]

theorem TextOperation.run_arguments (op : TextOperation) (t : Option String) :
    op.run t (arguments.map (·.withSource s)) = op.run t arguments := by
  simp only [run, TextQuery.comparands, Arguments.int_withSource, Arguments.text_withSource,
    Arguments.string_withSource, Arguments.boolean_withSource, List.head?_map]
  cases op with
  | assign | assignInt =>
    -- Text is assigned by what the first argument is
    cases arguments.head? with
    | none => rfl
    | some v => cases v <;> rfl
  | _ => rfl

theorem TextListOperation.run_arguments (op : TextListOperation) (l : TextList) :
    op.run l (arguments.map (·.withSource s)) = op.run l arguments := by
  simp only [run, searchFrom, Arguments.int_withSource, Arguments.text_withSource,
    Arguments.textList_withSource, Arguments.boolean_withSource, List.length_map, bind_map_left]
  -- A list that is assigned hands over its values and its cursor only
  rfl

theorem MailOperation.run_arguments (op : MailOperation) (m : MailMessage) :
    op.run m (arguments.map (·.withSource s)) = op.run m arguments := by
  simp only [run, Arguments.string_withSource, Arguments.textList_withSource,
    Arguments.mailMessage_withSource, bind_map_left]
  rfl

theorem TrackerOperation.run_arguments (op : TrackerOperation) (h : TrackerHandle) (job : Job)
    (w : World) : op.run h (arguments.map (·.withSource s)) job w = op.run h arguments job w := by
  simp only [run, Arguments.int_withSource, Arguments.text_withSource, Arguments.string_withSource]

theorem PopOperation.run_arguments (op : PopOperation) (session : PopSession) (w : World) :
    op.run session (arguments.map (·.withSource s)) w = op.run session arguments w := by
  simp only [run, Arguments.int_withSource, Arguments.string_withSource,
    Arguments.boolean_withSource, List.length_map]

theorem ScriptOperation.run_arguments (op : ScriptOperation) (source : Random.Source) (job : Job)
    (w : World) :
    op.run source (arguments.map (·.withSource s)) job w = op.run source arguments job w := by
  simp only [run, Arguments.int_withSource, Arguments.text_withSource, Arguments.string_withSource,
    Arguments.boolean_withSource]

theorem RateLimiterOperation.run_arguments (op : RateLimiterOperation) (limiter : RateLimiter)
    (w : World) : op.run limiter (arguments.map (·.withSource s)) w = op.run limiter arguments w := by
  simp only [run, Arguments.int_withSource]

/-- No operation looks at the random source of an argument. -/
theorem execute_arguments_withSource (job : Job) (w : World) (target : Value) (index : Nat) :
    execute job w target index (arguments.map (·.withSource s)) =
      execute job w target index arguments := by
  cases target with
  | boolean b => simp only [execute, BooleanOperation.run_arguments]
  | int n => simp only [execute, IntOperation.run_arguments]
  | text t => simp only [execute, TextOperation.run_arguments]
  | textList l => simp only [execute, TextListOperation.run_arguments]
  | tracker handle => simp only [execute, TrackerOperation.run_arguments]
  | popConnection session => simp only [execute, PopOperation.run_arguments]
  | mailMessage m => simp only [execute, MailOperation.run_arguments]
  | script source => simp only [execute, ScriptOperation.run_arguments]
  | rateLimiter limiter => simp only [execute, RateLimiterOperation.run_arguments]

end

/-! ## Section 4: Operations that draw -/

/-- The names of the operations that draw random numbers. -/
def drawing : List String :=
  ["randomint", "randomstring", "randomvalue"]

/-- The operation of a type at an index draws random numbers. -/
def drawsAt (t : ValueType) (index : Nat) : Bool :=
  (Catalog.signature? t index).any fun s => drawing.contains s.name

/-- Only types with a random source have operations that draw from it. -/
theorem drawsRandomly_of_drawsAt {t : ValueType} {index : Nat} (h : drawsAt t index = true) :
    t.drawsRandomly = true := by
  have hall : ∀ t ∈ ValueType.all, t.drawsRandomly = false →
      (Catalog.signatures t).any (fun s => drawing.contains s.name) = false := by
    decide +kernel
  obtain ⟨s, hs, hdraws⟩ := (Option.any_eq_true _ _).mp h
  cases hrandom : t.drawsRandomly with
  | true => rfl
  | false =>
    have hnone := hall t t.mem_all hrandom
    rw [List.any_eq_false] at hnone
    exact absurd hdraws (hnone s (List.mem_of_getElem? hs))

/-- An operation that stands at an index draws if the index says so. -/
theorem drawsAt_of_catalog {ω : Type} {t : ValueType} {catalog : List ω} {signature : ω → Signature}
    {index : Nat} {op : ω} (hsignatures : Catalog.signatures t = catalog.map signature)
    (hop : catalog[index]? = some op) : drawsAt t index = drawing.contains (signature op).name := by
  rw [drawsAt, Catalog.signature?, hsignatures, List.getElem?_map, hop]
  rfl

namespace TextList

variable (l : TextList) (s : Random.Source)

theorem insert_withSource (index : Int32) (value : Option String) :
    (l.withSource s).insert index value = (·.withSource s) <$> l.insert index value := by
  simp only [insert, map_bind]
  rfl

theorem setAt_withSource (index : Int32) (value : Option String) :
    (l.withSource s).setAt index value = (·.withSource s) <$> l.setAt index value := by
  simp only [setAt, map_bind]
  rfl

theorem removeAt_withSource (index : Int32) :
    (l.withSource s).removeAt index =
      (fun removed => (removed.1.withSource s, removed.2)) <$> l.removeAt index := by
  simp only [removeAt, map_bind]
  rfl

theorem firstValue_withSource :
    (l.withSource s).firstValue = (l.firstValue.1.withSource s, l.firstValue.2) := by
  simp only [firstValue, withSource]
  cases l.values <;> rfl

theorem nextValue_withSource :
    (l.withSource s).nextValue = (l.nextValue.1.withSource s, l.nextValue.2) := by
  simp only [nextValue, withSource]
  cases l.values[l.cursor]? <;> rfl

theorem removeFirst_withSource (needle : Option String) (ignoreCase : Bool) :
    (l.withSource s).removeFirst needle ignoreCase =
      ((l.removeFirst needle ignoreCase).1.withSource s, (l.removeFirst needle ignoreCase).2) := by
  have hposition : (l.withSource s).position? needle 0 ignoreCase =
      l.position? needle 0 ignoreCase := rfl
  simp only [removeFirst, hposition]
  cases l.position? needle 0 ignoreCase <;> rfl

end TextList

/-- An operation on a list that does not draw does the same with another source, and keeps it. -/
theorem TextListOperation.run_withSource {op : TextListOperation} (l : TextList) (s : Random.Source)
    (arguments : List Value) (hop : drawing.contains op.signature.name = false) :
    op.run (l.withSource s) arguments =
      (fun done => (done.1.withSource s, done.2)) <$> op.run l arguments := by
  cases op with
  | randomValue => cases hop
  | firstValue =>
    simp only [run, TextList.firstValue_withSource]
    rfl
  | nextValue =>
    simp only [run, TextList.nextValue_withSource]
    rfl
  | isEmpty | isNotEmpty | length | removeAll => rfl
  | _ =>
    simp only [run, map_bind, bind_map_left, TextList.insert_withSource,
      TextList.removeAt_withSource, TextList.setAt_withSource, TextList.removeFirst_withSource]
    rfl

theorem ScriptOperation.run_withSource {op : ScriptOperation} (source s : Random.Source)
    (arguments : List Value) (job : Job) (w : World)
    (hop : drawing.contains op.signature.name = false) :
    op.run s arguments job w = (fun done => (s, done.2)) <$> op.run source arguments job w := by
  cases op with
  | randomInt | randomText | randomTextOf => cases hop
  | exit | exitWithError | clientNumber | threadNumber | shouldStop | shouldNotStop => rfl
  | argumentOr | booleanArgument | intArgument =>
    simp only [run, map_bind]
    congr 1
    funext found
    -- The argument of the job, or else the one of the call
    split
    · rfl
    · simp only [map_bind]
      rfl
  | _ =>
    simp only [run, map_bind]
    rfl

/-- What the operations of a catalog that do not draw do with another source, a call by index does
with it. -/
theorem dispatch_withSource {σ ω : Type} {t : ValueType} {catalog : List ω}
    {signature : ω → Signature} {index : Nat} {target target' : σ} {w : World}
    {run run' : ω → Outcome σ} {f : σ → Value} {s : Random.Source}
    (hsignatures : Catalog.signatures t = catalog.map signature) (h : drawsAt t index = false)
    (htarget : f target' = (f target).withSource s)
    (hrun : ∀ op, drawing.contains (signature op).name = false →
      (run' op).map f = ((run op).map f).map (·.withSource s)) :
    (dispatch t catalog index target' w run').map f =
      ((dispatch t catalog index target w run).map f).map (·.withSource s) := by
  unfold dispatch
  cases hop : catalog[index]? with
  | none => simp only [Outcome.map, htarget]
  | some op => exact hrun op ((drawsAt_of_catalog hsignatures hop).symm.trans h)

/-- **The source of the target does not matter** to an operation that does not draw, and the
operation keeps it. -/
theorem execute_withSource (job : Job) (w : World) (target : Value) {index : Nat}
    (arguments : List Value) (s : Random.Source) (h : drawsAt target.type index = false) :
    execute job w (target.withSource s) index arguments =
      (execute job w target index arguments).map (·.withSource s) := by
  cases target with
  | textList l =>
    refine dispatch_withSource rfl h rfl ?_
    intro op hop
    rw [op.run_withSource l s arguments hop]
    cases op.run l arguments <;> rfl
  | script source =>
    refine dispatch_withSource rfl h rfl ?_
    intro op hop
    rw [op.run_withSource source s arguments job w hop]
    cases op.run source arguments job w <;> rfl
  | _ => rfl

/-! ## Section 5: Draws -/

namespace Random.Source

/-- Draws that count and draws that are thrown away are taken from the stream of one key. -/
theorem key_drawBelow {draw : Source → Nat × Source} (hdraw : ∀ s, (draw s).2.key = s.key)
    (w n limit : Nat) (s : Source) : (drawBelow draw w n limit s).2.key = s.key := by
  induction limit generalizing s with
  | zero => rfl
  | succ limit ih =>
    rw [drawBelow]
    split
    · exact hdraw s
    · exact (ih (draw s).2).trans (hdraw s)

theorem key_below32 (n : Nat) (s : Source) : (below32 n s).2.key = s.key :=
  key_drawBelow (fun _ => rfl) 32 n period s

theorem key_below64 (n : Nat) (s : Source) : (below64 n s).2.key = s.key :=
  key_drawBelow (fun _ => rfl) 64 n period s

theorem key_drawInt (source : Source) (low high : Int32) :
    Yields (fun drawn => drawn.2.key = source.key) (source.drawInt low high) := by
  unfold drawInt
  split
  · exact Yields.error _
  · dsimp only
    split
    · exact Yields.ok rfl
    · exact Yields.ok (key_below32 _ source)

theorem key_drawChars (alphabet : List Char) (count : Nat) (source : Source) :
    (drawChars alphabet count source).2.key = source.key := by
  induction count generalizing source with
  | zero => rfl
  | succ count ih =>
    rw [drawChars]
    exact (ih _).trans (key_below64 _ source)

theorem key_drawText (source : Source) (length : Int32) (alphabet : String) :
    Yields (fun drawn => drawn.2.key = source.key) (source.drawText length alphabet) := by
  unfold drawText
  split
  · exact Yields.error _
  · split
    · exact Yields.error _
    · exact Yields.ok (key_drawChars _ _ source)

end Random.Source

theorem TextListOperation.run_of_draws {op : TextListOperation} (l : TextList)
    (arguments : List Value) (hop : drawing.contains op.signature.name = true) :
    Yields (fun done => (∃ s : Random.Source, s.key = l.source.key ∧ done.1 = l.withSource s) ∧
      ∃ v, done.2 = .value v) (op.run l arguments) := by
  cases op with
  | randomValue =>
    -- Nothing is drawn from an empty list
    apply Yields.ok
    refine ⟨?_, _, rfl⟩
    rw [TextList.randomValue]
    split
    · exact ⟨l.source, rfl, rfl⟩
    · exact ⟨_, Random.Source.key_below64 _ l.source, rfl⟩
  | _ => cases hop

theorem ScriptOperation.run_of_draws {op : ScriptOperation} (source : Random.Source)
    (arguments : List Value) (job : Job) (w : World)
    (hop : drawing.contains op.signature.name = true) :
    Yields (fun done => done.1.key = source.key ∧ done.2.1 = w ∧ ∃ v, done.2.2 = .value v)
      (op.run source arguments job w) := by
  cases op with
  | randomInt =>
    apply Yields.bind
    intro low
    apply Yields.bind
    intro high
    refine Yields.bind_of (source.key_drawInt low high) ?_
    rintro ⟨n, rest⟩ hkey
    exact Yields.ok ⟨hkey, rfl, _, rfl⟩
  | randomText =>
    apply Yields.bind
    intro length
    refine Yields.bind_of (source.key_drawText length defaultAlphabet) ?_
    rintro ⟨text, rest⟩ hkey
    exact Yields.ok ⟨hkey, rfl, _, rfl⟩
  | randomTextOf =>
    apply Yields.bind
    intro length
    apply Yields.bind
    intro alphabet
    refine Yields.bind_of (source.key_drawText length alphabet) ?_
    rintro ⟨text, rest⟩ hkey
    exact Yields.ok ⟨hkey, rfl, _, rfl⟩
  | _ => cases hop

/-- The outcome is that of a draw on a target: it takes from the stream of the target, gives a value
if it gives anything, and changes nothing else. -/
structure Outcome.IsDraw (before : Value) (w : World) (outcome : Outcome Value) : Prop where
  world : outcome.world = w
  result : Yields (fun result => ∃ v, result = .value v) outcome.result
  target : ∃ own s, before.source? = some own ∧ s.key = own.key ∧
    outcome.target = before.withSource s

/-- A draw that fails takes nothing. -/
theorem Outcome.isDraw_of_error {before : Value} {w : World} {own : Random.Source} (cause : Cause)
    (hown : before.source? = some own) : IsDraw before w ⟨before, w, .error cause⟩ :=
  ⟨rfl, .error cause, own, own, hown, rfl, (Value.withSource_eq_self hown).symm⟩

/-- If the operations of a catalog with drawing names are draws, so is a call by index that
draws. -/
theorem dispatch_isDraw {σ ω : Type} {t : ValueType} {catalog : List ω}
    {signature : ω → Signature} {index : Nat} {target : σ} {w : World} {run : ω → Outcome σ}
    {f : σ → Value} {own : Random.Source}
    (hsignatures : Catalog.signatures t = catalog.map signature) (h : drawsAt t index = true)
    (hown : (f target).source? = some own)
    (hrun : ∀ op, drawing.contains (signature op).name = true →
      ((run op).map f).IsDraw (f target) w) :
    ((dispatch t catalog index target w run).map f).IsDraw (f target) w := by
  unfold dispatch
  cases hop : catalog[index]? with
  | none => exact Outcome.isDraw_of_error _ hown
  | some op => exact hrun op ((drawsAt_of_catalog hsignatures hop).symm.trans h)

/-- **Operations that draw do nothing else.** -/
theorem execute_of_drawsAt (job : Job) (w : World) (target : Value) {index : Nat}
    (arguments : List Value) (h : drawsAt target.type index = true) :
    (execute job w target index arguments).IsDraw target w := by
  have hrandom := drawsRandomly_of_drawsAt h
  cases target with
  | textList l =>
    refine dispatch_isDraw rfl h rfl ?_
    intro op hop
    cases hrun : op.run l arguments with
    | error cause => exact Outcome.isDraw_of_error cause rfl
    | ok done =>
      obtain ⟨⟨s, hkey, htarget⟩, hvalue⟩ := op.run_of_draws l arguments hop done hrun
      exact ⟨rfl, .ok hvalue, l.source, s, rfl, hkey, congrArg Value.textList htarget⟩
  | script source =>
    refine dispatch_isDraw rfl h rfl ?_
    intro op hop
    cases hrun : op.run source arguments job w with
    | error cause => exact Outcome.isDraw_of_error cause rfl
    | ok done =>
      obtain ⟨hkey, hworld, hvalue⟩ := op.run_of_draws source arguments job w hop done hrun
      exact ⟨hworld, .ok hvalue, source, done.1, rfl, hkey, rfl⟩
  | _ => cases hrandom

/-- A call leaves its target with a source of the key that it had, and with the very source unless
it drew. -/
theorem source?_execute (job : Job) (w : World) {target : Value} {own : Random.Source}
    (index : Nat) (arguments : List Value) (hown : target.source? = some own) :
    ∃ s, (execute job w target index arguments).target.source? = some s ∧ s.key = own.key ∧
      (drawsAt target.type index = false → s = own) := by
  cases hdraws : drawsAt target.type index with
  | true =>
    obtain ⟨own', s, hown', hkey, htarget⟩ := (execute_of_drawsAt job w target arguments hdraws).target
    obtain rfl := Option.some.inj (hown.symm.trans hown')
    refine ⟨s, ?_, hkey, fun h => by cases h⟩
    rw [htarget, Value.source?_withSource (Option.isSome_iff_exists.mpr ⟨own, hown⟩)]
  | false =>
    -- With its own source in place of its own source, the call keeps it
    have hsame := execute_withSource job w target arguments own hdraws
    rw [Value.withSource_eq_self hown] at hsame
    have htarget : (execute job w target index arguments).target =
        (execute job w target index arguments).target.withSource own :=
      congrArg Outcome.target hsame
    have hsome : (execute job w target index arguments).target.source?.isSome := by
      rw [Value.isSome_source?, type_target_execute, ← Value.isSome_source?, hown]
      rfl
    refine ⟨own, ?_, rfl, fun _ => rfl⟩
    rw [htarget, Value.source?_withSource hsome]

end JobScript
