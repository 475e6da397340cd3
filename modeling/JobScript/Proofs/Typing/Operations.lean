import JobScript.Execution
import JobScript.Proofs.Typing.Judgement

/-!
# Every Operation Keeps to Its Signature

For each type: an operation whose arguments have its parameter types is sound, and what it gives
back has its result type. There is one case for every entry of the catalogs.
-/

namespace JobScript

variable {arguments : List Value}

/-! ## Section 1: Booleans -/

theorem BooleanOperator.combine_ok (operator : BooleanOperator) (left right : Bool) :
    ∃ b, operator.combine left (.ok right) = .ok b := by
  cases operator with
  | and => cases left <;> exact ⟨_, rfl⟩
  | or => cases left <;> exact ⟨_, rfl⟩
  | equals => exact ⟨_, rfl⟩
  | notEqual => exact ⟨_, rfl⟩

theorem BooleanOperation.run_sound (op : BooleanOperation) (receiver : Bool)
    (h : arguments.map Value.type = op.signature.parameters) :
    Sound (fun done => done.2.type = op.signature.result) (op.run receiver arguments) := by
  cases op with
  | binary operator form =>
    cases form with
    | receiver =>
      obtain ⟨right, hright⟩ := Arguments.boolean_of_type operator.name (i := 0) (by rw [h]; rfl)
      have hcombined : ∃ b, operator.combine receiver
          (Arguments.boolean operator.name arguments 0) = .ok b := by
        rw [hright]
        exact operator.combine_ok receiver right
      exact Sound.bind_ok hcombined fun _ => Sound.pure rfl
    | arguments =>
      obtain ⟨right, hright⟩ := Arguments.boolean_of_type operator.name (i := 1) (by rw [h]; rfl)
      refine Sound.bind_ok (Arguments.boolean_of_type _ (by rw [h]; rfl)) fun left => ?_
      have hcombined : ∃ b, operator.combine left
          (Arguments.boolean operator.name arguments 1) = .ok b := by
        rw [hright]
        exact operator.combine_ok left right
      exact Sound.bind_ok hcombined fun _ => Sound.pure rfl
  | assign =>
    exact Sound.bind_ok (Arguments.boolean_of_type _ (by rw [h]; rfl)) fun _ => Sound.pure rfl
  | assignText =>
    refine Sound.bind_ok (Arguments.text_of_type _ (by rw [h]; rfl)) fun text => ?_
    -- The default is read only when the text is no truth value
    cases text.bind Text.truthValue? with
    | some b => exact Sound.pure rfl
    | none =>
      exact Sound.bind_ok (Arguments.boolean_of_type _ (by rw [h]; rfl)) fun _ => Sound.pure rfl
  | isFalse => exact Sound.pure rfl
  | toText => exact Sound.pure rfl

/-! ## Section 2: Integers -/

theorem IntOperator.combine_sound (operator : IntOperator) (a b : Int32) :
    Sound (fun result => result.type = some operator.result) (operator.combine a b) := by
  cases operator with
  | divide | remainder =>
    simp only [combine]
    split
    · rfl
    · rfl
  | _ => rfl

/-- The number of arguments tells the two forms of a binary operation apart. -/
theorem IntOperation.operands_ok (operation : String) (receiver : Int32) (form : OperandForm)
    (h : arguments.map Value.type = form.parameters .int) :
    ∃ ab, operands operation receiver arguments = .ok ab := by
  -- The types of the arguments fix their number
  have hlength : arguments.length = (form.parameters .int).length := by
    rw [← h, List.length_map]
  obtain ⟨a, ha⟩ : ∃ a, Arguments.int operation arguments 0 = .ok a :=
    Arguments.int_of_type operation (by rw [h]; cases form <;> rfl)
  cases form with
  | receiver =>
    have hone : ¬arguments.length = 2 := by
      rw [hlength]
      decide
    exact ⟨(receiver, a), by rw [operands, if_neg hone, ha]; rfl⟩
  | arguments =>
    have htwo : arguments.length = 2 := hlength
    obtain ⟨b, hb⟩ : ∃ b, Arguments.int operation arguments 1 = .ok b :=
      Arguments.int_of_type operation (by rw [h]; rfl)
    exact ⟨(a, b), by rw [operands, if_pos htwo, ha, hb]; rfl⟩

theorem IntOperation.run_sound (op : IntOperation) (receiver : Int32)
    (h : arguments.map Value.type = op.signature.parameters) :
    Sound (fun done => done.2.type = op.signature.result) (op.run receiver arguments) := by
  cases op with
  | binary operator form =>
    refine Sound.bind_ok (operands_ok _ receiver form h) fun ab => ?_
    exact Sound.bind (operator.combine_sound ab.1 ab.2) fun result hresult => Sound.pure hresult
  | assignText =>
    refine Sound.bind_ok (Arguments.text_of_type _ (by rw [h]; rfl)) fun text => ?_
    cases text.bind Text.Decimal.int32? with
    | some n => exact Sound.pure rfl
    | none =>
      exact Sound.bind_ok (Arguments.int_of_type _ (by rw [h]; rfl)) fun _ => Sound.pure rfl
  | assign | decrementBy | incrementBy | notOf =>
    exact Sound.bind_ok (Arguments.int_of_type _ (by rw [h]; rfl)) fun _ => Sound.pure rfl
  | decrement | increment | not | toText => exact Sound.pure rfl

/-! ## Section 3: Text -/

theorem TextQuery.comparands_ok (operation own : String) {needleAt flagAt : Nat}
    (hneedle : (arguments.map Value.type)[needleAt]? = some .text)
    (hflag : (arguments.map Value.type)[flagAt]? = some .boolean) :
    ∃ c, comparands operation own arguments needleAt flagAt = .ok c := by
  obtain ⟨needle, hneedle⟩ := Arguments.string_of_type operation hneedle
  obtain ⟨ignoreCase, hflag⟩ := Arguments.boolean_of_type operation hflag
  -- Both are read; whether letters are made small does not matter for the type
  rw [comparands, hneedle, hflag]
  cases ignoreCase <;> exact ⟨_, rfl⟩

theorem TextQuery.position_sound (operation : String) (index : Int32) (length : Nat) :
    Sound (fun _ => True) (position operation index length) := by
  unfold position
  split
  · trivial
  · rfl

theorem TextOperation.run_sound (op : TextOperation) (receiver : Option String)
    (h : arguments.map Value.type = op.signature.parameters) :
    Sound (fun done => done.2.type = op.signature.result) (op.run receiver arguments) := by
  cases op with
  | append | splitAt =>
    exact Sound.bind_ok (Arguments.string_of_type _ (by rw [h]; rfl)) fun _ => Sound.pure rfl
  | assignInt | assign =>
    -- Either form takes an integer or a text, whichever comes
    obtain ⟨v, rest, rfl, ht, -⟩ := List.map_eq_cons_iff.mp h
    cases v <;> first | rfl | cases ht
  | compareTo | contains | endsWith | equals | indexOf | lastIndexOf | startsWith =>
    exact Sound.bind_ok (TextQuery.comparands_ok _ _ (by rw [h]; rfl) (by rw [h]; rfl))
      fun _ => Sound.pure rfl
  | indexOfFrom | lastIndexOfFrom =>
    refine Sound.bind_ok (TextQuery.comparands_ok _ _ (by rw [h]; rfl) (by rw [h]; rfl))
      fun _ => ?_
    exact Sound.bind_ok (Arguments.int_of_type _ (by rw [h]; rfl)) fun _ => Sound.pure rfl
  | isNull | length | notNull | splitAtTabs | toLowerCase | toUpperCase => exact Sound.pure rfl
  | substringFrom =>
    refine Sound.bind_ok (Arguments.int_of_type _ (by rw [h]; rfl)) fun index => ?_
    exact Sound.bind (TextQuery.position_sound _ _ _) fun _ _ => Sound.pure rfl
  | substring =>
    refine Sound.bind_ok (Arguments.int_of_type _ (by rw [h]; rfl)) fun first => ?_
    refine Sound.bind_ok (Arguments.int_of_type _ (by rw [h]; rfl)) fun last => ?_
    refine Sound.bind (TextQuery.position_sound _ _ _) fun start _ => ?_
    refine Sound.bind (TextQuery.position_sound _ _ _) fun stop _ => ?_
    split
    · exact Sound.pure rfl
    · rfl

/-! ## Section 4: Text lists -/

theorem TextList.checkedIndex_sound (l : TextList) (operation : String) (index : Int32)
    (bound : Nat) : Sound (fun _ => True) (l.checkedIndex operation index bound) := by
  unfold checkedIndex
  split
  · trivial
  · rfl

/-- The number of arguments tells whether a search has a start. -/
theorem TextListOperation.searchFrom_ok (operation : String)
    (h : arguments.map Value.type = [.text, .boolean] ∨
      arguments.map Value.type = [.text, .int, .boolean]) :
    ∃ search, searchFrom operation arguments = .ok search := by
  rcases h with h | h
  · have hlength : ¬arguments.length = 3 := by
      rw [← List.length_map (f := Value.type), h]
      decide
    obtain ⟨ignoreCase, hflag⟩ := Arguments.boolean_of_type operation (i := 1) (by rw [h]; rfl)
    exact ⟨(0, ignoreCase), by rw [searchFrom, if_neg hlength, hflag]; rfl⟩
  · have hlength : arguments.length = 3 := by
      rw [← List.length_map (f := Value.type), h]
      rfl
    obtain ⟨start, hstart⟩ := Arguments.int_of_type operation (i := 1) (by rw [h]; rfl)
    obtain ⟨ignoreCase, hflag⟩ := Arguments.boolean_of_type operation (i := 2) (by rw [h]; rfl)
    exact ⟨(start.toInt.toNat, ignoreCase),
      by rw [searchFrom, if_pos hlength, hstart, hflag]; rfl⟩

theorem TextListOperation.run_sound (op : TextListOperation) (receiver : TextList)
    (h : arguments.map Value.type = op.signature.parameters) :
    Sound (fun done => done.2.type = op.signature.result) (op.run receiver arguments) := by
  cases op with
  | addValue =>
    exact Sound.bind_ok (Arguments.text_of_type _ (by rw [h]; rfl)) fun _ => Sound.pure rfl
  | assign =>
    exact Sound.bind_ok (Arguments.textList_of_type _ (by rw [h]; rfl)) fun _ => Sound.pure rfl
  | contains | remove =>
    refine Sound.bind_ok (Arguments.text_of_type _ (by rw [h]; rfl)) fun needle => ?_
    exact Sound.bind_ok (Arguments.boolean_of_type _ (by rw [h]; rfl)) fun _ => Sound.pure rfl
  | indexOf =>
    refine Sound.bind_ok (Arguments.text_of_type _ (by rw [h]; rfl)) fun needle => ?_
    exact Sound.bind_ok (searchFrom_ok _ (.inl h)) fun _ => Sound.pure rfl
  | indexOfFrom =>
    refine Sound.bind_ok (Arguments.text_of_type _ (by rw [h]; rfl)) fun needle => ?_
    exact Sound.bind_ok (searchFrom_ok _ (.inr h)) fun _ => Sound.pure rfl
  | insert | setValueAt =>
    refine Sound.bind_ok (Arguments.int_of_type _ (by rw [h]; rfl)) fun index => ?_
    refine Sound.bind_ok (Arguments.text_of_type _ (by rw [h]; rfl)) fun value => ?_
    refine Sound.bind ?_ fun _ (_ : True) => Sound.pure rfl
    exact Sound.bind (receiver.checkedIndex_sound _ _ _) fun _ _ => Sound.pure trivial
  | removeValueAt | valueAt =>
    refine Sound.bind_ok (Arguments.int_of_type _ (by rw [h]; rfl)) fun index => ?_
    refine Sound.bind ?_ fun _ (_ : True) => Sound.pure rfl
    exact Sound.bind (receiver.checkedIndex_sound _ _ _) fun _ _ => Sound.pure trivial
  | firstValue | isEmpty | isNotEmpty | length | nextValue | randomValue | removeAll =>
    exact Sound.pure rfl

/-! ## Section 5: Trackers -/

theorem TrackerOperation.run_sound (op : TrackerOperation) (receiver : TrackerHandle)
    (job : Job) (w : World) (h : arguments.map Value.type = op.signature.parameters) :
    Sound (fun done => done.2.2.type = op.signature.result)
      (op.run receiver arguments job w) := by
  cases op with
  | addValue =>
    exact Sound.bind_ok (Arguments.int_of_type _ (by rw [h]; rfl)) fun _ => Sound.pure rfl
  | incrementCategory =>
    exact Sound.bind_ok (Arguments.string_of_type _ (by rw [h]; rfl)) fun _ => Sound.pure rfl
  | setDisplayName =>
    exact Sound.bind_ok (Arguments.text_of_type _ (by rw [h]; rfl)) fun _ => Sound.pure rfl
  | increment | startTimer | startTracker | stopTimer | stopTracker => exact Sound.pure rfl

/-! ## Section 6: Mail sessions -/

/-- An exchange ends in its own result or in a broken connection. -/
theorem PopSession.converseOutcome_sound {α : Type} (s : PopSession) (w : World) (unconnected : α)
    (exchange : Pop.Exchange α) (result : α → Result) {t : Option ValueType}
    (h : ∀ a, (result a).type = t) :
    Sound (fun given => given.type = t)
      (s.converseOutcome w unconnected exchange result).result := by
  simp only [converseOutcome]
  split
  · exact h _
  · rfl

/-- Arguments that can be read leave soundness to what is done with them. -/
theorem PopSession.withArguments_sound {α : Type} (s : PopSession) (w : World)
    {arguments : Except Cause α} {go : α → Outcome PopSession} {P : Result → Prop}
    (h : ∃ a, arguments = .ok a) (hgo : ∀ a, Sound P (go a).result) :
    Sound P (s.withArguments w arguments go).result := by
  obtain ⟨a, rfl⟩ := h
  exact hgo a

/-- The third argument of a connection attempt is read exactly when there is one. -/
theorem PopOperation.secure_ok (operation : String)
    (h : arguments.map Value.type = [.text, .int] ∨
      arguments.map Value.type = [.text, .int, .boolean]) :
    ∃ secure, (if arguments.length = 3 then Arguments.boolean operation arguments 2
      else .ok false) = .ok secure := by
  rcases h with h | h
  · have hlength : ¬arguments.length = 3 := by
      rw [← List.length_map (f := Value.type), h]
      decide
    exact ⟨false, if_neg hlength⟩
  · have hlength : arguments.length = 3 := by
      rw [← List.length_map (f := Value.type), h]
      rfl
    rw [if_pos hlength]
    exact Arguments.boolean_of_type operation (by rw [h]; rfl)

theorem PopOperation.run_sound (op : PopOperation) (s : PopSession) (w : World)
    (h : arguments.map Value.type = op.signature.parameters) :
    Sound (fun given => given.type = op.signature.result) (op.run s arguments w).result := by
  cases op with
  | authenticate =>
    refine s.withArguments_sound w ?_ fun _ => s.converseOutcome_sound _ _ _ _ fun _ => rfl
    refine Sound.exists_ok_bind (Arguments.string_of_type _ (by rw [h]; rfl)) fun user => ?_
    exact Sound.exists_ok_bind (Arguments.string_of_type _ (by rw [h]; rfl)) fun _ => ⟨_, rfl⟩
  | connect =>
    refine s.withArguments_sound w ?_ fun _ => rfl
    refine Sound.exists_ok_bind (Arguments.string_of_type _ (by rw [h]; rfl)) fun host => ?_
    refine Sound.exists_ok_bind (Arguments.int_of_type _ (by rw [h]; rfl)) fun port => ?_
    exact Sound.exists_ok_bind (secure_ok _ (.inl h)) fun _ => ⟨_, rfl⟩
  | connectSecurely =>
    refine s.withArguments_sound w ?_ fun _ => rfl
    refine Sound.exists_ok_bind (Arguments.string_of_type _ (by rw [h]; rfl)) fun host => ?_
    refine Sound.exists_ok_bind (Arguments.int_of_type _ (by rw [h]; rfl)) fun port => ?_
    exact Sound.exists_ok_bind (secure_ok _ (.inr h)) fun _ => ⟨_, rfl⟩
  | delete | retrieve =>
    exact s.withArguments_sound w (Arguments.int_of_type _ (by rw [h]; rfl))
      fun _ => s.converseOutcome_sound _ _ _ _ fun _ => rfl
  | top =>
    refine s.withArguments_sound w ?_ fun _ => s.converseOutcome_sound _ _ _ _ fun _ => rfl
    refine Sound.exists_ok_bind (Arguments.int_of_type _ (by rw [h]; rfl)) fun message => ?_
    exact Sound.exists_ok_bind (Arguments.int_of_type _ (by rw [h]; rfl)) fun _ => ⟨_, rfl⟩
  | disconnect | failureReason => rfl
  | list | noop | stat => exact s.converseOutcome_sound _ _ _ _ fun _ => rfl

/-! ## Section 7: Mail messages -/

theorem MailOperation.run_sound (op : MailOperation) (receiver : MailMessage)
    (h : arguments.map Value.type = op.signature.parameters) :
    Sound (fun done => done.2.type = op.signature.result) (op.run receiver arguments) := by
  cases op with
  | addBodyLine | addCcRecipient | addHeaderLine | addToRecipient | header | setSender
  | setSubject =>
    exact Sound.bind_ok (Arguments.string_of_type _ (by rw [h]; rfl)) fun _ => Sound.pure rfl
  | addBodyLines =>
    exact Sound.bind_ok (Arguments.textList_of_type _ (by rw [h]; rfl)) fun _ => Sound.pure rfl
  | assign =>
    exact Sound.bind_ok (Arguments.mailMessage_of_type _ (by rw [h]; rfl)) fun _ => Sound.pure rfl
  | clear | clearBody | clearHeader | bodyLines | ccRecipients | headerLines | sender | subject
  | toRecipients => exact Sound.pure rfl

/-! ## Section 8: The script -/

theorem Random.Source.drawInt_sound (source : Random.Source) (low high : Int32) :
    Sound (fun _ => True) (source.drawInt low high) := by
  simp only [drawInt]
  split
  · rfl
  · split
    · trivial
    · trivial

theorem Random.Source.drawText_sound (source : Random.Source) (length : Int32)
    (alphabet : String) : Sound (fun _ => True) (source.drawText length alphabet) := by
  simp only [drawText]
  split
  · rfl
  · split
    · rfl
    · trivial

theorem Job.timestamp_sound (job : Job) (now : Instant) (pattern : String) :
    Sound (fun _ => True) (job.timestamp now pattern) := by
  unfold timestamp Timestamp.render
  split
  · rfl
  · split
    · trivial
    · rfl

/-- A named script argument is looked up, whether it was given or not. -/
theorem ScriptOperation.scriptArgument_ok (operation : String) (job : Job)
    (h : (arguments.map Value.type)[0]? = some .text) :
    ∃ value, (do
      return job.settings.argument?
        (Text.toLower (← Arguments.string operation arguments 0)) :
      Except Cause (Option String)) = .ok value :=
  Sound.exists_ok_bind (Arguments.string_of_type operation h) fun _ => ⟨_, rfl⟩

theorem ScriptOperation.run_sound (op : ScriptOperation) (source : Random.Source) (job : Job)
    (w : World) (h : arguments.map Value.type = op.signature.parameters) :
    Sound (fun done => done.2.2.type = op.signature.result)
      (op.run source arguments job w) := by
  cases op with
  | debugMessage | logMessage =>
    exact Sound.bind_ok (Arguments.string_of_type _ (by rw [h]; rfl)) fun _ => Sound.pure rfl
  | sleep =>
    exact Sound.bind_ok (Arguments.int_of_type _ (by rw [h]; rfl)) fun _ => Sound.pure rfl
  -- Ending the script is a failure, though not of the call
  | exit | exitWithError => rfl
  | clientNumber | threadNumber | shouldNotStop | shouldStop => exact Sound.pure rfl
  | argument =>
    exact Sound.bind_ok (scriptArgument_ok _ job (by rw [h]; rfl)) fun _ => Sound.pure rfl
  -- The default is read only when the argument is absent or does not fit
  | argumentOr =>
    refine Sound.bind_ok (scriptArgument_ok _ job (by rw [h]; rfl)) fun value => ?_
    cases value with
    | some _ => exact Sound.pure rfl
    | none =>
      exact Sound.bind_ok (Arguments.text_of_type _ (by rw [h]; rfl)) fun _ => Sound.pure rfl
  | booleanArgument =>
    refine Sound.bind_ok (scriptArgument_ok _ job (by rw [h]; rfl)) fun value => ?_
    cases value.bind Text.truthValue? with
    | some _ => exact Sound.pure rfl
    | none =>
      exact Sound.bind_ok (Arguments.boolean_of_type _ (by rw [h]; rfl)) fun _ => Sound.pure rfl
  | intArgument =>
    refine Sound.bind_ok (scriptArgument_ok _ job (by rw [h]; rfl)) fun value => ?_
    cases value.bind Text.Decimal.int32? with
    | some _ => exact Sound.pure rfl
    | none =>
      exact Sound.bind_ok (Arguments.int_of_type _ (by rw [h]; rfl)) fun _ => Sound.pure rfl
  | randomInt =>
    refine Sound.bind_ok (Arguments.int_of_type _ (by rw [h]; rfl)) fun low => ?_
    refine Sound.bind_ok (Arguments.int_of_type _ (by rw [h]; rfl)) fun high => ?_
    exact Sound.bind (source.drawInt_sound low high) fun _ _ => Sound.pure rfl
  | randomText =>
    refine Sound.bind_ok (Arguments.int_of_type _ (by rw [h]; rfl)) fun length => ?_
    exact Sound.bind (source.drawText_sound length _) fun _ _ => Sound.pure rfl
  | randomTextOf =>
    refine Sound.bind_ok (Arguments.int_of_type _ (by rw [h]; rfl)) fun length => ?_
    refine Sound.bind_ok (Arguments.string_of_type _ (by rw [h]; rfl)) fun alphabet => ?_
    exact Sound.bind (source.drawText_sound length alphabet) fun _ _ => Sound.pure rfl
  | timestamp => exact Sound.bind (job.timestamp_sound _ _) fun _ _ => Sound.pure rfl
  | timestampAs =>
    refine Sound.bind_ok (Arguments.string_of_type _ (by rw [h]; rfl)) fun pattern => ?_
    exact Sound.bind (job.timestamp_sound _ _) fun _ _ => Sound.pure rfl

/-! ## Section 9: Rate limiters -/

theorem RateLimiterOperation.run_sound (op : RateLimiterOperation) (limiter : RateLimiter)
    (w : World) (h : arguments.map Value.type = op.signature.parameters) :
    Sound (fun done => done.2.2.type = op.signature.result) (op.run limiter arguments w) := by
  cases op with
  | setDuration =>
    exact Sound.bind_ok (Arguments.int_of_type _ (by rw [h]; rfl)) fun _ => Sound.pure rfl
  | duration | sleepForRemainingTime | startTimer => exact Sound.pure rfl

end JobScript
