import JobScript.Proofs.Typing.Operations

/-!
# What Operations Read

An operation never compares its arguments with its signature. It reads the arguments it needs, one
after the other, and a value of the wrong type is noticed where it is read. What is needed can
depend on the receiver, on arguments read before, on the number of arguments, and on what the job
supplies: an operand that no longer matters, or a default that is not used, is never looked at.

## Architecture

- `Demand`, `Demand.firstUnmet?`: an argument that is read, and the first one that does not fit
- `Reads`: a computation that reads arguments, with what is the case if all of them fit
- `BooleanOperation.demands`, …: what the operations of each type read, in order
- `BooleanOperation.run_reads`, …: they read that, and fail over nothing else in the call
-/

namespace JobScript

/-! ## Section 1: Demands -/

/-- An argument that is read: its position, and the type it should have. -/
structure Demand where
  position : Nat
  type : ValueType
  deriving DecidableEq

namespace Demand

/-- The argument is there and has the type. -/
def isMet (d : Demand) (arguments : List Value) : Bool :=
  (arguments[d.position]?).map Value.type = some d.type

/-- The first demand that the arguments do not meet. -/
def firstUnmet? (arguments : List Value) (demands : List Demand) : Option Demand :=
  demands.find? fun d => !d.isMet arguments

/-- The failure over a demand that is not met. -/
def cause (d : Demand) (operation : String) (arguments : List Value) : Cause :=
  Arguments.wrongType operation arguments d.position d.type

/-- What is read after a value, if there is one. -/
def following {α : Type} (x : Except Cause α) (demands : α → List Demand) : List Demand :=
  match x with
  | .ok a => demands a
  | .error _ => []

variable {arguments : List Value}

theorem firstUnmet?_append (ds es : List Demand) :
    firstUnmet? arguments (ds ++ es) = (firstUnmet? arguments ds).or (firstUnmet? arguments es) :=
  List.find?_append

theorem firstUnmet?_singleton (d : Demand) :
    firstUnmet? arguments [d] = if d.isMet arguments then none else some d := by
  cases h : d.isMet arguments <;> simp [firstUnmet?, h]

end Demand

open Demand

variable {operation : String} {arguments : List Value} {α β : Type} {d : Demand}
  {ds es : List Demand}

/-! ## Section 2: Reading -/

/-- The computation gives a value. -/
def Gives (x : Except Cause α) : Prop :=
  ∃ a, x = .ok a

/-- If the computation fails, then over nothing that lies in the call. -/
def NoDefect (x : Except Cause α) : Prop :=
  ∀ cause, x = .error cause → cause.isDefect = false

theorem NoDefect.of_sound {P : α → Prop} {x : Except Cause α} (h : Sound P x) : NoDefect x := by
  rintro cause rfl
  exact (cause.isMiscall_eq_false_iff.mp h).1

/-- The computation reads its demands in order: it fails over the first one that is not met, and
has the property if all are. -/
structure Reads (operation : String) (arguments : List Value) (demands : List Demand)
    (P : Except Cause α → Prop) (x : Except Cause α) : Prop where
  unmet : ∀ d, firstUnmet? arguments demands = some d → x = .error (d.cause operation arguments)
  met : firstUnmet? arguments demands = none → P x

namespace Reads

variable {P : Except Cause α → Prop} {Q : Except Cause β → Prop} {x : Except Cause α}
  {f : α → Except Cause β}

theorem nothing (h : P x) : Reads operation arguments [] P x where
  unmet := fun _ hd => by cases hd
  met := fun _ => h

theorem gives (a : α) : Reads operation arguments [] Gives (pure a : Except Cause α) :=
  nothing ⟨a, rfl⟩

theorem done (a : α) : Reads operation arguments [] NoDefect (pure a : Except Cause α) :=
  nothing fun _ h => by cases h

theorem of_sound {R : α → Prop} (h : Sound R x) : Reads operation arguments [] NoDefect x :=
  nothing (NoDefect.of_sound h)

/-- What follows a sound computation without fail reads nothing more either. -/
theorem of_sound_bind {R : α → Prop} {g : α → β} (h : Sound R x) :
    Reads operation arguments [] NoDefect (x >>= fun a => pure (g a)) :=
  of_sound (R := fun _ => True) (Sound.bind h fun _ _ => Sound.pure trivial)

theorem single (hunmet : d.isMet arguments = false → x = .error (d.cause operation arguments))
    (hmet : d.isMet arguments = true → P x) : Reads operation arguments [d] P x := by
  constructor
  · intro d' h
    rw [firstUnmet?_singleton] at h
    split at h
    · cases h
    · rename_i hd
      obtain rfl := Option.some.inj h
      exact hunmet (Bool.eq_false_iff.mpr hd)
  · intro h
    rw [firstUnmet?_singleton] at h
    split at h
    · rename_i hd
      exact hmet hd
    · cases h

theorem bind (hx : Reads operation arguments ds Gives x)
    (hf : ∀ a, x = .ok a → Reads operation arguments es Q (f a)) :
    Reads operation arguments (ds ++ es) Q (x >>= f) := by
  cases hds : firstUnmet? arguments ds with
  | some d =>
    have hx := hx.unmet d hds
    constructor
    · intro d' h
      rw [firstUnmet?_append, hds] at h
      obtain rfl := Option.some.inj h
      rw [hx]
      rfl
    · intro h
      rw [firstUnmet?_append, hds] at h
      cases h
  | none =>
    -- All that is read first is there, so what follows decides
    obtain ⟨a, rfl⟩ := hx.met hds
    constructor
    · intro d' h
      rw [firstUnmet?_append, hds, Option.none_or] at h
      exact (hf a rfl).unmet d' h
    · intro h
      rw [firstUnmet?_append, hds, Option.none_or] at h
      exact (hf a rfl).met h

/-- One demand, and what is read after it. -/
theorem read (hx : Reads operation arguments [d] Gives x)
    (hf : ∀ a, Reads operation arguments es Q (f a)) :
    Reads operation arguments (d :: es) Q (x >>= f) :=
  bind hx fun a _ => hf a

/-- One demand, and what is read after the value that met it. -/
theorem follow {demands : α → List Demand} (hx : Reads operation arguments [d] Gives x)
    (hf : ∀ a, Reads operation arguments (demands a) Q (f a)) :
    Reads operation arguments (d :: following x demands) Q (x >>= f) := by
  apply bind hx
  rintro a rfl
  exact hf a

/-- Nothing is read after the demands. -/
theorem last (hx : Reads operation arguments ds Gives x)
    (hf : ∀ a, Reads operation arguments [] Q (f a)) :
    Reads operation arguments ds Q (x >>= f) :=
  List.append_nil ds ▸ bind hx fun a _ => hf a

theorem map {g : α → β} (hx : Reads operation arguments ds P x) (h : P x → Q (x.map g)) :
    Reads operation arguments ds Q (x.map g) where
  unmet := fun d hd => by rw [hx.unmet d hd]; rfl
  met := fun hd => h (hx.met hd)

end Reads

theorem Gives.map {x : Except Cause α} (h : Gives x) (f : α → β) : Gives (x.map f) := by
  obtain ⟨a, rfl⟩ := h
  exact ⟨f a, rfl⟩

theorem NoDefect.map {x : Except Cause α} (h : NoDefect x) (f : α → β) : NoDefect (x.map f) := by
  intro cause hcause
  cases x with
  | ok a => cases hcause
  | error cause' =>
    cases hcause
    exact h cause rfl

/-! ## Section 3: Arguments -/

namespace Arguments

variable (i : Nat)

/-- A reader gives a value of the type at its position, and fails if there is none. -/
theorem reads_of_type {t : ValueType} {x : Except Cause α}
    (hright : (arguments.map Value.type)[i]? = some t → Gives x)
    (hwrong : (∀ v, arguments[i]? = some v → v.type ≠ t) →
      x = .error (wrongType operation arguments i t)) :
    Reads operation arguments [⟨i, t⟩] Gives x := by
  apply Reads.single
  · intro h
    apply hwrong
    intro v hv ht
    rw [isMet, decide_eq_false_iff_not] at h
    exact h (by rw [hv, Option.map_some, ht])
  · intro h
    rw [isMet, decide_eq_true_iff] at h
    exact hright (List.getElem?_map.trans h)

theorem boolean_reads :
    Reads operation arguments [⟨i, .boolean⟩] Gives (boolean operation arguments i) := by
  refine reads_of_type i (boolean_of_type _) fun h => ?_
  unfold boolean
  split
  · exact absurd rfl (h _ ‹_›)
  · rfl

theorem int_reads : Reads operation arguments [⟨i, .int⟩] Gives (int operation arguments i) := by
  refine reads_of_type i (int_of_type _) fun h => ?_
  unfold int
  split
  · exact absurd rfl (h _ ‹_›)
  · rfl

theorem text_reads : Reads operation arguments [⟨i, .text⟩] Gives (text operation arguments i) := by
  refine reads_of_type i (text_of_type _) fun h => ?_
  unfold text
  split
  · exact absurd rfl (h _ ‹_›)
  · rfl

theorem string_reads :
    Reads operation arguments [⟨i, .text⟩] Gives (string operation arguments i) :=
  (text_reads i).map fun h => h.map _

theorem textList_reads :
    Reads operation arguments [⟨i, .textList⟩] Gives (textList operation arguments i) := by
  refine reads_of_type i (textList_of_type _) fun h => ?_
  unfold textList
  split
  · exact absurd rfl (h _ ‹_›)
  · rfl

theorem mailMessage_reads :
    Reads operation arguments [⟨i, .mailMessage⟩] Gives (mailMessage operation arguments i) := by
  refine reads_of_type i (mailMessage_of_type _) fun h => ?_
  unfold mailMessage
  split
  · exact absurd rfl (h _ ‹_›)
  · rfl

end Arguments

open Arguments

/-! ## Section 4: Booleans -/

/-- The right operand is read unless the left one settles the result. -/
def BooleanOperator.demands (operator : BooleanOperator) (left : Bool) (position : Nat) :
    List Demand :=
  match operator, left with
  | .and, false | .or, true => []
  | _, _ => [⟨position, .boolean⟩]

theorem BooleanOperator.combine_reads (operator : BooleanOperator) (left : Bool)
    (position : Nat) :
    Reads operation arguments (operator.demands left position) Gives
      (operator.combine left (boolean operation arguments position)) := by
  cases operator with
  | and =>
    cases left with
    | true => exact boolean_reads position
    | false => exact Reads.gives false
  | or =>
    cases left with
    | true => exact Reads.gives true
    | false => exact boolean_reads position
  | equals => cases left <;> exact (boolean_reads position).map fun h => h.map _
  | notEqual => cases left <;> exact (boolean_reads position).map fun h => h.map _

/-- The default of an assignment from text is read only if the text is no truth value. -/
def BooleanOperation.demands (op : BooleanOperation) (receiver : Bool) (arguments : List Value) :
    List Demand :=
  let name := op.signature.name
  match op with
  | .binary operator .receiver => operator.demands receiver 0
  | .binary operator .arguments =>
    ⟨0, .boolean⟩ :: following (boolean name arguments 0) fun left => operator.demands left 1
  | .assign => [⟨0, .boolean⟩]
  | .assignText =>
    ⟨0, .text⟩ :: following (text name arguments 0) fun t =>
      (t.bind Text.truthValue?).elim [⟨1, .boolean⟩] fun _ => []
  | .isFalse | .toText => []

theorem BooleanOperation.run_reads (op : BooleanOperation) (receiver : Bool)
    (arguments : List Value) :
    Reads op.signature.name arguments (op.demands receiver arguments) NoDefect
      (op.run receiver arguments) := by
  cases op with
  | binary operator form =>
    cases form with
    | receiver => exact Reads.last (operator.combine_reads receiver 0) fun _ => Reads.done _
    | arguments =>
      refine Reads.follow (boolean_reads 0) fun left => ?_
      exact Reads.last (operator.combine_reads left 1) fun _ => Reads.done _
  | assign => exact Reads.read (boolean_reads 0) fun _ => Reads.done _
  | assignText =>
    refine Reads.follow (text_reads 0) fun t => ?_
    cases t.bind Text.truthValue? with
    | some b => exact Reads.done _
    | none => exact Reads.read (boolean_reads 1) fun _ => Reads.done _
  | isFalse | toText => exact Reads.done _

/-! ## Section 5: Integers -/

/-- The number of arguments decides which operands are read, whatever the signature says. -/
def IntOperation.operandDemands (arguments : List Value) : List Demand :=
  if arguments.length = 2 then [⟨0, .int⟩, ⟨1, .int⟩] else [⟨0, .int⟩]

theorem IntOperation.operands_reads (receiver : Int32) :
    Reads operation arguments (operandDemands arguments) Gives
      (operands operation receiver arguments) := by
  unfold operandDemands operands
  split
  · exact Reads.read (int_reads 0) fun a =>
      Reads.read (int_reads 1) fun b => Reads.gives (a, b)
  · exact Reads.read (int_reads 0) fun a => Reads.gives (receiver, a)

def IntOperation.demands (op : IntOperation) (arguments : List Value) : List Demand :=
  let name := op.signature.name
  match op with
  | .binary .. => operandDemands arguments
  | .assign | .incrementBy | .decrementBy | .notOf => [⟨0, .int⟩]
  | .assignText =>
    ⟨0, .text⟩ :: following (text name arguments 0) fun t =>
      (t.bind Text.Decimal.int32?).elim [⟨1, .int⟩] fun _ => []
  | .increment | .decrement | .not | .toText => []

theorem IntOperation.run_reads (op : IntOperation) (receiver : Int32) (arguments : List Value) :
    Reads op.signature.name arguments (op.demands arguments) NoDefect
      (op.run receiver arguments) := by
  cases op with
  | binary operator form =>
    refine Reads.last (operands_reads receiver) fun (a, b) => ?_
    exact Reads.of_sound_bind (operator.combine_sound a b)
  | assign | incrementBy | decrementBy | notOf =>
    exact Reads.read (int_reads 0) fun _ => Reads.done _
  | assignText =>
    refine Reads.follow (text_reads 0) fun t => ?_
    cases t.bind Text.Decimal.int32? with
    | some n => exact Reads.done _
    | none => exact Reads.read (int_reads 1) fun _ => Reads.done _
  | increment | decrement | not | toText => exact Reads.done _

/-! ## Section 6: Text -/

theorem TextQuery.comparands_reads (own : String) (needleAt flagAt : Nat) :
    Reads operation arguments [⟨needleAt, .text⟩, ⟨flagAt, .boolean⟩] Gives
      (comparands operation own arguments needleAt flagAt) := by
  refine Reads.read (string_reads needleAt) fun needle => ?_
  refine Reads.read (boolean_reads flagAt) fun ignoreCase => ?_
  split
  · exact Reads.gives _
  · exact Reads.gives _

/-- Both forms of assignment take an integer or a text, whichever comes. Where a search has a start,
the start is read last. -/
def TextOperation.demands (op : TextOperation) (arguments : List Value) : List Demand :=
  match op with
  | .append | .splitAt => [⟨0, .text⟩]
  | .assignInt | .assign =>
    match arguments.head? with
    | some (.int _) => []
    | _ => [⟨0, .text⟩]
  | .compareTo | .contains | .endsWith | .startsWith | .equals | .indexOf | .lastIndexOf =>
    [⟨0, .text⟩, ⟨1, .boolean⟩]
  | .indexOfFrom | .lastIndexOfFrom => [⟨0, .text⟩, ⟨2, .boolean⟩, ⟨1, .int⟩]
  | .substringFrom => [⟨0, .int⟩]
  | .substring => [⟨0, .int⟩, ⟨1, .int⟩]
  | .isNull | .notNull | .length | .splitAtTabs | .toLowerCase | .toUpperCase => []

theorem TextOperation.run_reads (op : TextOperation) (receiver : Option String)
    (arguments : List Value) :
    Reads op.signature.name arguments (op.demands arguments) NoDefect
      (op.run receiver arguments) := by
  cases op with
  | append | splitAt => exact Reads.read (string_reads 0) fun _ => Reads.done _
  | assignInt | assign =>
    cases hhead : arguments.head? with
    | none =>
      simp only [demands, run, hhead]
      exact Reads.read (text_reads 0) fun _ => Reads.done _
    | some v =>
      simp only [demands, run, hhead]
      cases v with
      | int n => exact Reads.done _
      | _ => exact Reads.read (text_reads 0) fun _ => Reads.done _
  | compareTo | contains | endsWith | startsWith | equals | indexOf | lastIndexOf =>
    exact Reads.last (TextQuery.comparands_reads _ 0 1) fun _ => Reads.done _
  | indexOfFrom | lastIndexOfFrom =>
    refine Reads.bind (TextQuery.comparands_reads _ 0 2) fun _ _ => ?_
    exact Reads.read (int_reads 1) fun _ => Reads.done _
  | substringFrom =>
    refine Reads.read (int_reads 0) fun index => ?_
    exact Reads.of_sound_bind (TextQuery.position_sound _ _ _)
  | substring =>
    refine Reads.read (int_reads 0) fun first => ?_
    refine Reads.read (int_reads 1) fun last => ?_
    refine Reads.of_sound (R := fun _ => True) ?_
    refine Sound.bind (TextQuery.position_sound _ _ _) fun start _ => ?_
    refine Sound.bind (TextQuery.position_sound _ _ _) fun stop _ => ?_
    split
    · trivial
    · rfl
  | isNull | notNull | length | splitAtTabs | toLowerCase | toUpperCase => exact Reads.done _

/-! ## Section 7: Text lists -/

/-- The number of arguments decides whether a start is read, whatever the signature says. -/
def TextListOperation.searchDemands (arguments : List Value) : List Demand :=
  if arguments.length = 3 then [⟨1, .int⟩, ⟨2, .boolean⟩] else [⟨1, .boolean⟩]

theorem TextListOperation.searchFrom_reads :
    Reads operation arguments (searchDemands arguments) Gives (searchFrom operation arguments) := by
  unfold searchDemands searchFrom
  split
  · exact Reads.read (int_reads 1) fun start =>
      Reads.read (boolean_reads 2) fun _ => Reads.gives _
  · exact Reads.read (boolean_reads 1) fun _ => Reads.gives _

def TextListOperation.demands (op : TextListOperation) (arguments : List Value) : List Demand :=
  match op with
  | .addValue => [⟨0, .text⟩]
  | .assign => [⟨0, .textList⟩]
  | .contains | .remove => [⟨0, .text⟩, ⟨1, .boolean⟩]
  | .indexOf | .indexOfFrom => ⟨0, .text⟩ :: searchDemands arguments
  | .insert | .setValueAt => [⟨1, .int⟩, ⟨0, .text⟩]
  | .removeValueAt | .valueAt => [⟨0, .int⟩]
  | .firstValue | .isEmpty | .isNotEmpty | .length | .nextValue | .randomValue | .removeAll => []

theorem TextListOperation.run_reads (op : TextListOperation) (receiver : TextList)
    (arguments : List Value) :
    Reads op.signature.name arguments (op.demands arguments) NoDefect
      (op.run receiver arguments) := by
  cases op with
  | addValue => exact Reads.read (text_reads 0) fun _ => Reads.done _
  | assign => exact Reads.read (textList_reads 0) fun _ => Reads.done _
  | contains | remove =>
    refine Reads.read (text_reads 0) fun needle => ?_
    exact Reads.read (boolean_reads 1) fun _ => Reads.done _
  | indexOf | indexOfFrom =>
    refine Reads.read (text_reads 0) fun needle => ?_
    exact Reads.last searchFrom_reads fun _ => Reads.done _
  | insert | setValueAt =>
    refine Reads.read (int_reads 1) fun index => ?_
    refine Reads.read (text_reads 0) fun value => ?_
    refine Reads.of_sound_bind (R := fun _ => True) ?_
    exact Sound.bind (receiver.checkedIndex_sound _ _ _) fun _ _ => Sound.pure trivial
  | removeValueAt | valueAt =>
    refine Reads.read (int_reads 0) fun index => ?_
    refine Reads.of_sound_bind (R := fun _ => True) ?_
    exact Sound.bind (receiver.checkedIndex_sound _ _ _) fun _ _ => Sound.pure trivial
  | firstValue | isEmpty | isNotEmpty | length | nextValue | randomValue | removeAll =>
    exact Reads.done _

/-! ## Section 8: Trackers -/

def TrackerOperation.demands : TrackerOperation → List Demand
  | .addValue => [⟨0, .int⟩]
  | .incrementCategory | .setDisplayName => [⟨0, .text⟩]
  | .increment | .startTimer | .startTracker | .stopTimer | .stopTracker => []

theorem TrackerOperation.run_reads (op : TrackerOperation) (receiver : TrackerHandle)
    (arguments : List Value) (job : Job) (w : World) :
    Reads op.signature.name arguments op.demands NoDefect
      (op.run receiver arguments job w) := by
  cases op with
  | addValue => exact Reads.read (int_reads 0) fun _ => Reads.done _
  | incrementCategory => exact Reads.read (string_reads 0) fun _ => Reads.done _
  | setDisplayName => exact Reads.read (text_reads 0) fun _ => Reads.done _
  | increment | startTimer | startTracker | stopTimer | stopTracker => exact Reads.done _

/-! ## Section 9: Mail messages -/

def MailOperation.demands : MailOperation → List Demand
  | .addBodyLine | .addCcRecipient | .addHeaderLine | .addToRecipient | .header | .setSender
  | .setSubject => [⟨0, .text⟩]
  | .addBodyLines => [⟨0, .textList⟩]
  | .assign => [⟨0, .mailMessage⟩]
  | .clear | .clearBody | .clearHeader | .bodyLines | .ccRecipients | .headerLines | .sender
  | .subject | .toRecipients => []

theorem MailOperation.run_reads (op : MailOperation) (receiver : MailMessage)
    (arguments : List Value) :
    Reads op.signature.name arguments op.demands NoDefect (op.run receiver arguments) := by
  cases op with
  | addBodyLine | addCcRecipient | addHeaderLine | addToRecipient | header | setSender
  | setSubject => exact Reads.read (string_reads 0) fun _ => Reads.done _
  | addBodyLines => exact Reads.read (textList_reads 0) fun _ => Reads.done _
  | assign => exact Reads.read (mailMessage_reads 0) fun _ => Reads.done _
  | clear | clearBody | clearHeader | bodyLines | ccRecipients | headerLines | sender | subject
  | toRecipients => exact Reads.done _

/-! ## Section 10: The script and rate limiters -/

/-- The script argument that a call names, if the job supplies it. -/
def ScriptOperation.supplied (operation : String) (arguments : List Value) (job : Job) :
    Except Cause (Option String) := do
  return job.settings.argument? (Text.toLower (← string operation arguments 0))

theorem ScriptOperation.supplied_reads (job : Job) :
    Reads operation arguments [⟨0, .text⟩] Gives (supplied operation arguments job) :=
  Reads.read (string_reads 0) fun _ => Reads.gives _

/-- A default is read only if the job supplies nothing, or nothing that can be used. -/
def ScriptOperation.demands (op : ScriptOperation) (arguments : List Value) (job : Job) :
    List Demand :=
  let given := supplied op.signature.name arguments job
  match op with
  | .debugMessage | .logMessage | .argument | .timestampAs => [⟨0, .text⟩]
  | .argumentOr => ⟨0, .text⟩ :: following given fun value => value.elim [⟨1, .text⟩] fun _ => []
  | .booleanArgument =>
    ⟨0, .text⟩ :: following given fun value =>
      (value.bind Text.truthValue?).elim [⟨1, .boolean⟩] fun _ => []
  | .intArgument =>
    ⟨0, .text⟩ :: following given fun value =>
      (value.bind Text.Decimal.int32?).elim [⟨1, .int⟩] fun _ => []
  | .sleep | .randomText => [⟨0, .int⟩]
  | .randomInt => [⟨0, .int⟩, ⟨1, .int⟩]
  | .randomTextOf => [⟨0, .int⟩, ⟨1, .text⟩]
  | .exit | .exitWithError | .clientNumber | .threadNumber | .shouldStop | .shouldNotStop
  | .timestamp => []

theorem ScriptOperation.run_reads (op : ScriptOperation) (source : Random.Source)
    (arguments : List Value) (job : Job) (w : World) :
    Reads op.signature.name arguments (op.demands arguments job) NoDefect
      (op.run source arguments job w) := by
  cases op with
  | debugMessage | logMessage => exact Reads.read (string_reads 0) fun _ => Reads.done _
  | exit | exitWithError => exact Reads.of_sound (R := fun _ => True) rfl
  | sleep => exact Reads.read (int_reads 0) fun _ => Reads.done _
  | clientNumber | threadNumber | shouldStop | shouldNotStop => exact Reads.done _
  | argument => exact Reads.read (supplied_reads job) fun _ => Reads.done _
  | argumentOr =>
    refine Reads.follow (supplied_reads job) fun value => ?_
    cases value with
    | some _ => exact Reads.done _
    | none => exact Reads.read (text_reads 1) fun _ => Reads.done _
  | booleanArgument =>
    refine Reads.follow (supplied_reads job) fun value => ?_
    cases value.bind Text.truthValue? with
    | some _ => exact Reads.done _
    | none => exact Reads.read (boolean_reads 1) fun _ => Reads.done _
  | intArgument =>
    refine Reads.follow (supplied_reads job) fun value => ?_
    cases value.bind Text.Decimal.int32? with
    | some _ => exact Reads.done _
    | none => exact Reads.read (int_reads 1) fun _ => Reads.done _
  | randomInt =>
    refine Reads.read (int_reads 0) fun low => ?_
    refine Reads.read (int_reads 1) fun high => ?_
    exact Reads.of_sound_bind (source.drawInt_sound low high)
  | randomText =>
    refine Reads.read (int_reads 0) fun length => ?_
    exact Reads.of_sound_bind (source.drawText_sound length _)
  | randomTextOf =>
    refine Reads.read (int_reads 0) fun length => ?_
    refine Reads.read (string_reads 1) fun alphabet => ?_
    exact Reads.of_sound_bind (source.drawText_sound length alphabet)
  | timestamp =>
    exact Reads.of_sound_bind (job.timestamp_sound _ _)
  | timestampAs =>
    refine Reads.read (string_reads 0) fun pattern => ?_
    exact Reads.of_sound_bind (job.timestamp_sound _ _)

def RateLimiterOperation.demands : RateLimiterOperation → List Demand
  | .setDuration => [⟨0, .int⟩]
  | .duration | .startTimer | .sleepForRemainingTime => []

theorem RateLimiterOperation.run_reads (op : RateLimiterOperation) (limiter : RateLimiter)
    (arguments : List Value) (w : World) :
    Reads op.signature.name arguments op.demands NoDefect (op.run limiter arguments w) := by
  cases op with
  | setDuration => exact Reads.read (int_reads 0) fun _ => Reads.done _
  | duration | startTimer | sleepForRemainingTime => exact Reads.done _

end JobScript
