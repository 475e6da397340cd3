import JobScript.Proofs.Operands.Calls

/-!
# Operations in Two Forms

Some operations are listed twice. One form works on the target of the call, the other takes the
left operand as its first argument and leaves the target aside: `x.subtract(y)` and
`z.subtract(x, y)` are the same difference. Which operations these are is read off the catalogs:
the binary operations on booleans, those on integers, and the complement of an integer.

## Architecture

- `Catalog.ListsBothForms`: a catalog has an operation in both forms
- `TwoFormOperation`: the operations that are listed so
- `Catalog.listsBothForms_iff`: it is these and no others
- `callNamed_booleanBinary`, `callNamed_complement`: both forms, called by name
- `TwoFormOperation.forms_agree`: both forms of an operation, by its own name
- `both_forms_agree`: both forms of whatever is listed in both forms
-/

namespace JobScript

/-! ## Section 1: What is listed in both forms -/

/-- An operation with these parameters is listed, and once more with a left operand of the type
itself before them. Either gives a result. -/
def Catalog.ListsBothForms (t : ValueType) (name : String) (types : List ValueType) : Prop :=
  (resultType? t name types).isSome ∧ (resultType? t name (t :: types)).isSome

/-- An operation that takes its left operand from the target or from the arguments. -/
inductive TwoFormOperation where
  | boolean (operator : BooleanOperator)
  | int (operator : IntOperator)
  /-- Complement of an integer, which is its only operand -/
  | complement
  deriving DecidableEq, Repr

namespace TwoFormOperation

def all : List TwoFormOperation :=
  [.boolean .and, .boolean .or, .boolean .equals, .boolean .notEqual,
    .int .add, .int .subtract, .int .multiply, .int .divide, .int .remainder,
    .int .and, .int .or, .int .xor, .complement, .int .equals, .int .notEqual,
    .int .greaterThan, .int .greaterThanOrEqualTo, .int .lessThan, .int .lessThanOrEqualTo]

/-- Type of the operands. -/
def type : TwoFormOperation → ValueType
  | .boolean _ => .boolean
  | .int _ | .complement => .int

def signature : TwoFormOperation → OperandForm → Signature
  | .boolean operator, form => (BooleanOperation.binary operator form).signature
  | .int operator, form => (IntOperation.binary operator form).signature
  | .complement, .receiver => IntOperation.not.signature
  | .complement, .arguments => IntOperation.notOf.signature

def name (op : TwoFormOperation) : String :=
  (op.signature .receiver).name

/-- Types of the operands other than the left one. -/
def others (op : TwoFormOperation) : List ValueType :=
  (op.signature .receiver).parameters

end TwoFormOperation

namespace Catalog

variable {t : ValueType} {name : String} {types : List ValueType}

theorem isSome_resultType?_iff :
    (resultType? t name types).isSome ↔
      ∃ s ∈ signatures t, Fits name types s ∧ s.result.isSome := by
  rw [resultType?_eq]
  constructor
  · intro h
    cases hi : resolve? t name types with
    | none => simp [hi] at h
    | some i =>
      obtain ⟨s, hs, hfits⟩ := resolve?_eq_some_iff.mp hi
      rw [hi, Option.bind_some, hs, Option.bind_some] at h
      exact ⟨s, mem_of_signature? hs, hfits, h⟩
  · rintro ⟨s, hmem, hfits, hresult⟩
    obtain ⟨i, hs⟩ := List.mem_iff_getElem?.mp hmem
    rw [resolve?_eq_some_iff.mpr ⟨s, hs, hfits⟩, Option.bind_some, signature?, hs]
    exact hresult

/-- Two signatures of one name, of which one has a left operand more, are the two forms of an
operation. -/
theorem exists_twoForm {s s' : Signature} (hs : s ∈ signatures t) (hs' : s' ∈ signatures t)
    (hparameters : s'.parameters = t :: s.parameters) (hname : s.name = s'.name)
    (hresult : s.result.isSome) (hresult' : s'.result.isSome) :
    ∃ op : TwoFormOperation, op.type = t ∧ op.name = s.name ∧ op.others = s.parameters := by
  -- The catalogs are finite: every pair of signatures is looked at
  have hall : ∀ t ∈ ValueType.all, ∀ s ∈ signatures t, ∀ s' ∈ signatures t,
      s'.parameters = t :: s.parameters → s.name = s'.name → s.result.isSome →
      s'.result.isSome → ∃ op ∈ TwoFormOperation.all,
        op.type = t ∧ op.name = s.name ∧ op.others = s.parameters := by
    decide +kernel
  obtain ⟨op, -, hop⟩ :=
    hall t (ValueType.mem_all t) s hs s' hs' hparameters hname hresult hresult'
  exact ⟨op, hop⟩

theorem signature_mem_boolean (op : BooleanOperation) : op.signature ∈ signatures .boolean :=
  List.mem_map_of_mem op.mem_catalog

theorem signature_mem_int (op : IntOperation) : op.signature ∈ signatures .int :=
  List.mem_map_of_mem op.mem_catalog

theorem mem_signatures_twoForm (op : TwoFormOperation) (form : OperandForm) :
    op.signature form ∈ signatures op.type := by
  cases op with
  | boolean operator => exact signature_mem_boolean (.binary operator form)
  | int operator => exact signature_mem_int (.binary operator form)
  | complement =>
    cases form with
    | receiver => exact signature_mem_int .not
    | arguments => exact signature_mem_int .notOf

/-- The forms of an operation differ in the left operand, and either gives a result. -/
theorem fits_twoForm (op : TwoFormOperation) (hname : op.name = Text.asciiLower name) :
    Fits name op.others (op.signature .receiver) ∧
      Fits name (op.type :: op.others) (op.signature .arguments) ∧
      ∀ form, (op.signature form).result.isSome := by
  refine ⟨⟨hname, rfl⟩, ⟨?_, ?_⟩, ?_⟩
  · rw [← hname]
    cases op <;> rfl
  · cases op <;> rfl
  · intro form
    cases op <;> cases form <;> rfl

/-- **What is listed in both forms**: the operations of `TwoFormOperation`, and no others. -/
theorem listsBothForms_iff :
    ListsBothForms t name types ↔
      ∃ op : TwoFormOperation,
        op.type = t ∧ op.name = Text.asciiLower name ∧ op.others = types := by
  rw [ListsBothForms, isSome_resultType?_iff, isSome_resultType?_iff]
  constructor
  · rintro ⟨⟨s, hs, ⟨hname, rfl⟩, hresult⟩, s', hs', ⟨hname', hparameters⟩, hresult'⟩
    -- The name of the call, in small letters, is the name in both signatures
    rw [← hname]
    exact exists_twoForm hs hs' hparameters (hname.trans hname'.symm) hresult hresult'
  · rintro ⟨op, rfl, hname, rfl⟩
    obtain ⟨hfits, hfits', hresult⟩ := fits_twoForm op hname
    exact ⟨⟨_, mem_signatures_twoForm op .receiver, hfits, hresult _⟩,
      _, mem_signatures_twoForm op .arguments, hfits', hresult _⟩

end Catalog

/-! ## Section 2: Calls -/

section

variable (job : Job) (w : World) {arguments : List Value}

theorem Value.exists_boolean {v : Value} (h : v.type = .boolean) : ∃ b, v = .boolean b := by
  cases v with
  | boolean b => exact ⟨b, rfl⟩
  | _ => cases h

theorem Value.exists_int {v : Value} (h : v.type = .int) : ∃ n, v = .int n := by
  cases v with
  | int n => exact ⟨n, rfl⟩
  | _ => cases h

/-- Both forms of a binary operation on booleans combine the operands. -/
theorem callNamed_booleanBinary (operator : BooleanOperator) (aside a b : Bool) :
    callNamed job w (.boolean a) operator.name [.boolean b] =
        some ⟨.boolean a, w, (operator.combine a (.ok b)).map .boolean⟩ ∧
      callNamed job w (.boolean aside) operator.name [.boolean a, .boolean b] =
        some ⟨.boolean aside, w, (operator.combine a (.ok b)).map .boolean⟩ := by
  constructor
  · refine (callNamed_boolean job w (.binary operator .receiver) a rfl).trans ?_
    cases operator <;> cases a <;> rfl
  · refine (callNamed_boolean job w (.binary operator .arguments) aside rfl).trans ?_
    cases operator <;> cases a <;> rfl

/-- Both forms of the complement take it of their operand. -/
theorem callNamed_complement (aside a : Int32) :
    callNamed job w (.int a) TwoFormOperation.complement.name [] =
        some ⟨.int a, w, .ok (.int (~~~a))⟩ ∧
      callNamed job w (.int aside) TwoFormOperation.complement.name [.int a] =
        some ⟨.int aside, w, .ok (.int (~~~a))⟩ :=
  ⟨callNamed_int job w .not a rfl, callNamed_int job w .notOf aside rfl⟩

/-- **Both forms of an operation** give the same, and leave their target as it is. -/
theorem TwoFormOperation.forms_agree (op : TwoFormOperation) {left aside : Value}
    (hleft : left.type = op.type) (haside : aside.type = op.type)
    (hothers : arguments.map Value.type = op.others) :
    ∃ result, callNamed job w left op.name arguments = some ⟨left, w, result⟩ ∧
      callNamed job w aside op.name (left :: arguments) = some ⟨aside, w, result⟩ := by
  cases op with
  | boolean operator =>
    obtain ⟨a, rfl⟩ := Value.exists_boolean hleft
    obtain ⟨c, rfl⟩ := Value.exists_boolean haside
    obtain ⟨right, rfl, hright⟩ := List.map_eq_singleton_iff.mp hothers
    obtain ⟨b, rfl⟩ := Value.exists_boolean hright
    exact ⟨_, callNamed_booleanBinary job w operator c a b⟩
  | int operator =>
    obtain ⟨a, rfl⟩ := Value.exists_int hleft
    obtain ⟨c, rfl⟩ := Value.exists_int haside
    obtain ⟨right, rfl, hright⟩ := List.map_eq_singleton_iff.mp hothers
    obtain ⟨b, rfl⟩ := Value.exists_int hright
    exact ⟨_, callNamed_binary job w operator .receiver c a b,
      callNamed_binary job w operator .arguments c a b⟩
  | complement =>
    obtain ⟨a, rfl⟩ := Value.exists_int hleft
    obtain ⟨c, rfl⟩ := Value.exists_int haside
    obtain rfl := List.map_eq_nil_iff.mp hothers
    exact ⟨_, callNamed_complement job w c a⟩

end

/-! ## Section 3: Both forms -/

/-- **Both forms agree.** What a catalog lists in both forms are the binary operations on booleans,
those on integers and the complement of an integer, by their names in any ASCII case. A call that
has the left operand as its target and a call that has it as its first argument then have the same
result or the same failure, whatever the target of the other call is. Neither changes its target or
the shared state. -/
theorem both_forms_agree (job : Job) (w : World) (t : ValueType) (name : String)
    (types : List ValueType) :
    (Catalog.ListsBothForms t name types ↔
      ∃ op : TwoFormOperation,
        op.type = t ∧ op.name = Text.asciiLower name ∧ op.others = types) ∧
    (Catalog.ListsBothForms t name types →
      ∀ (left aside : Value) (others : List Value),
        left.type = t → aside.type = t → others.map Value.type = types →
        ∃ result, callNamed job w left name others = some ⟨left, w, result⟩ ∧
          callNamed job w aside name (left :: others) = some ⟨aside, w, result⟩) := by
  refine ⟨Catalog.listsBothForms_iff, ?_⟩
  intro hlisted left aside others hleft haside hothers
  obtain ⟨op, rfl, hname, rfl⟩ := Catalog.listsBothForms_iff.mp hlisted
  -- Names of operations are written in small letters, so the call may as well use that name
  have hcase : Text.asciiLower name = Text.asciiLower op.name := by
    rw [← hname]
    exact (Catalog.asciiLower_name (Catalog.mem_signatures_twoForm op .receiver)).symm
  rw [callNamed_congr job w left hcase, callNamed_congr job w aside hcase]
  exact op.forms_agree job w hleft haside hothers

/-- Dividing by zero fails in both forms, whatever the target of the longer call. -/
theorem division_by_zero_in_both_forms :
    Catalog.ListsBothForms .int "Divide" [.int] ∧
      callNamed {} {} (.int 7) "Divide" [.int 0] = some ⟨.int 7, {}, .error .divisionByZero⟩ ∧
      callNamed {} {} (.int 5) "Divide" [.int 7, .int 0] =
        some ⟨.int 5, {}, .error .divisionByZero⟩ := by
  obtain ⟨hlisted, hagree⟩ := both_forms_agree {} {} .int "Divide" [.int]
  have hdivide : Catalog.ListsBothForms .int "Divide" [.int] :=
    hlisted.mpr ⟨.int .divide, rfl, by decide, rfl⟩
  obtain ⟨result, hshort, hlong⟩ := hagree hdivide (.int 7) (.int 5) [.int 0] rfl rfl rfl
  have hfails : callNamed {} {} (.int 7) "Divide" [.int 0] =
      some ⟨.int 7, {}, .error .divisionByZero⟩ := by
    rfl
  obtain rfl : result = .error .divisionByZero := by
    simpa using hshort.symm.trans hfails
  exact ⟨hdivide, hfails, hlong⟩

end JobScript
