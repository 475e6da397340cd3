import JobScript.ValueType

/-!
# Operation Signatures

A signature is one entry of a type's operation catalog: a name, the parameter types in call
order, and the result type when there is a result. It fits a call only when the name (up to ASCII
case) and every argument type agree; nothing is converted and no argument is optional.
-/

namespace JobScript

/-- The written form `name(type, type)` of a call. -/
def callShape (name : String) (types : List ValueType) : String :=
  name ++ "(" ++ ", ".intercalate (types.map ValueType.keyword) ++ ")"

/-- An operation as a catalog lists it. -/
structure Signature where
  /-- Name, in small letters -/
  name : String
  /-- Parameter types, in call order -/
  parameters : List ValueType
  /-- Type of the result; none for an operation run only for its effect -/
  result : Option ValueType
  deriving DecidableEq, Repr

namespace Signature

/-- An operation that produces a value. -/
def producing (name : String) (parameters : List ValueType) (result : ValueType) : Signature :=
  ⟨name, parameters, some result⟩

/-- An operation run only for its effect. -/
def acting (name : String) (parameters : List ValueType) : Signature :=
  ⟨name, parameters, none⟩

def arity (s : Signature) : Nat :=
  s.parameters.length

/-- The signature has this name, up to ASCII case. -/
def isNamed (s : Signature) (name : String) : Bool :=
  Text.equalIgnoringAsciiCase s.name name

/-- A call of `name` with arguments of these types selects the signature. -/
def accepts (s : Signature) (name : String) (types : List ValueType) : Bool :=
  s.isNamed name && s.parameters == types

/-- The signature as diagnostics show it. -/
def shape (s : Signature) : String :=
  callShape s.name s.parameters

/-- A signature that accepts a call has the call's name. -/
theorem isNamed_of_accepts {s : Signature} {name : String} {types : List ValueType}
    (h : s.accepts name types = true) : s.isNamed name = true := by
  simp only [accepts, Bool.and_eq_true] at h
  exact h.1

/-- A signature that accepts a call has exactly the call's argument types. -/
theorem parameters_of_accepts {s : Signature} {name : String} {types : List ValueType}
    (h : s.accepts name types = true) : s.parameters = types := by
  simp only [accepts, Bool.and_eq_true, beq_iff_eq] at h
  exact h.2

end Signature

end JobScript
