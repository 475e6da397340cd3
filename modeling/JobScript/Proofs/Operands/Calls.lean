import JobScript.Execution
import JobScript.Proofs.Diagnostic.Resolution
import Mathlib.Data.List.Basic

/-!
# Calls by Name

A call gives the name of an operation and the values that it is applied to. The types of target and
arguments select the one overload that fits, and the operation of that overload is carried out.
Binary operations on integers have two overloads: the left operand is the target of the call, or both
operands are arguments and the target is left aside.

## Architecture

- `Catalog.resolve?_of_mem`, `dispatch_idxOf`: every operation has its index
- `callNamed`, `callNamed_of_mem`: a call on a value, from the name to the outcome
- `callNamed_congr`: the name of a call may be written in any ASCII case
- `callNamed_boolean`, `callNamed_int`, `callNamed_text`, `callNamed_script`: a call that applies an
  operation of a type
- `OperandForm.target`, `OperandForm.supplied`: two integers as the operands of an overload
- `callNamed_binary`: what becomes of a binary operation on integers, in either form
-/

namespace JobScript

section

variable {σ ω : Type} [DecidableEq ω] {t : ValueType} {catalog : List ω} {op : ω}

/-! ## Section 1: Calls -/

/-- A call with the name and the parameters of an operation resolves to the index of the
operation. -/
theorem Catalog.resolve?_of_mem {signature : ω → Signature}
    (hsignatures : signatures t = catalog.map signature) (hop : op ∈ catalog) :
    resolve? t (signature op).name (signature op).parameters = some (catalog.idxOf op) := by
  have hindex : signature? t (catalog.idxOf op) = some (signature op) := by
    rw [signature?, hsignatures, List.getElem?_map, List.getElem?_idxOf hop, Option.map_some]
  -- The catalog writes names in small letters, so the name of the call is the name that is sought
  have hname := asciiLower_name (mem_of_signature? hindex)
  exact resolve?_eq_some_iff.mpr ⟨signature op, hindex, hname.symm, rfl⟩

theorem dispatch_idxOf (hop : op ∈ catalog) (target : σ) (w : World) (run : ω → Outcome σ) :
    dispatch t catalog (catalog.idxOf op) target w run = run op := by
  rw [dispatch, List.getElem?_idxOf hop]

/-- The ASCII case of a name does not matter to the index. -/
theorem Catalog.resolve?_congr {name name' : String} {types : List ValueType}
    (h : Text.asciiLower name = Text.asciiLower name') :
    resolve? t name types = resolve? t name' types := by
  ext i
  rw [resolve?_eq_some_iff, resolve?_eq_some_iff]
  simp only [Fits, h]

/-- The outcome of a call on a value, by the name of the operation and the types of the arguments;
none if no overload fits. -/
def callNamed (job : Job) (w : World) (target : Value) (operation : String)
    (arguments : List Value) : Option (Outcome Value) :=
  (Catalog.resolve? target.type operation (arguments.map Value.type)).map
    fun index => execute job w target index arguments

theorem callNamed_congr (job : Job) (w : World) (target : Value) {name name' : String}
    {arguments : List Value} (h : Text.asciiLower name = Text.asciiLower name') :
    callNamed job w target name arguments = callNamed job w target name' arguments := by
  rw [callNamed, callNamed, Catalog.resolve?_congr h]

/-- A call whose arguments have the types of an overload carries out the operation of that
overload. -/
theorem callNamed_of_mem (f : σ → Value) (run : ω → Outcome σ) {job : Job} {w : World}
    {arguments : List Value} {signature : ω → Signature} {target : σ}
    (hexecute : ∀ index, execute job w (f target) index arguments =
      (dispatch (f target).type catalog index target w run).map f)
    (hsignatures : Catalog.signatures (f target).type = catalog.map signature) (hop : op ∈ catalog)
    (htypes : arguments.map Value.type = (signature op).parameters) :
    callNamed job w (f target) (signature op).name arguments = some ((run op).map f) := by
  rw [callNamed, htypes, Catalog.resolve?_of_mem hsignatures hop, Option.map_some, hexecute,
    dispatch_idxOf hop]

end

section

variable (job : Job) (w : World) {arguments : List Value}

theorem BooleanOperation.mem_catalog (op : BooleanOperation) : op ∈ catalog := by
  cases op with
  | binary operator form => cases operator <;> cases form <;> decide
  | _ => decide

theorem IntOperation.mem_catalog (op : IntOperation) : op ∈ catalog := by
  cases op with
  | binary operator form => cases operator <;> cases form <;> decide
  | _ => decide

theorem TextOperation.mem_catalog (op : TextOperation) : op ∈ catalog := by
  cases op <;> decide

theorem ScriptOperation.mem_catalog (op : ScriptOperation) : op ∈ catalog := by
  cases op <;> decide

theorem callNamed_boolean (op : BooleanOperation) (b : Bool)
    (htypes : arguments.map Value.type = op.signature.parameters) :
    callNamed job w (.boolean b) op.signature.name arguments =
      some ((Outcome.ofTarget b w (op.run b arguments)).map .boolean) :=
  callNamed_of_mem .boolean (fun op => .ofTarget b w (op.run b arguments))
    (fun _ => rfl) rfl op.mem_catalog htypes

theorem callNamed_int (op : IntOperation) (n : Int32)
    (htypes : arguments.map Value.type = op.signature.parameters) :
    callNamed job w (.int n) op.signature.name arguments =
      some ((Outcome.ofTarget n w (op.run n arguments)).map .int) :=
  callNamed_of_mem .int (fun op => .ofTarget n w (op.run n arguments))
    (fun _ => rfl) rfl op.mem_catalog htypes

theorem callNamed_text (op : TextOperation) (t : Option String)
    (htypes : arguments.map Value.type = op.signature.parameters) :
    callNamed job w (.text t) op.signature.name arguments =
      some ((Outcome.ofTarget t w (op.run t arguments)).map .text) :=
  callNamed_of_mem .text (fun op => .ofTarget t w (op.run t arguments))
    (fun _ => rfl) rfl op.mem_catalog htypes

theorem callNamed_script (op : ScriptOperation) (source : Random.Source)
    (htypes : arguments.map Value.type = op.signature.parameters) :
    callNamed job w (.script source) op.signature.name arguments =
      some ((Outcome.ofExcept source w (op.run source arguments job w)).map .script) :=
  callNamed_of_mem .script (fun op => .ofExcept source w (op.run source arguments job w))
    (fun _ => rfl) rfl op.mem_catalog htypes

end

/-! ## Section 2: Two operands -/

namespace OperandForm

/-- The integer that a binary operation is called on: its left operand, or one that is left aside. -/
def target (form : OperandForm) (aside a : Int32) : Int32 :=
  match form with
  | .receiver => a
  | .arguments => aside

/-- The arguments of a binary operation: its right operand, or both. -/
def supplied (form : OperandForm) (a b : Int32) : List Value :=
  match form with
  | .receiver => [.int b]
  | .arguments => [.int a, .int b]

end OperandForm

theorem run_binary (operator : IntOperator) (form : OperandForm) (aside a b : Int32) :
    (IntOperation.binary operator form).run (form.target aside a) (form.supplied a b) =
      (operator.combine a b).map fun result => (form.target aside a, result) := by
  cases form <;>
  · change (do return (_, ← operator.combine a b)) = _
    cases operator.combine a b <;> rfl

/-- **Both forms of a binary operation** combine the operands and leave their target as it is. -/
theorem callNamed_binary (job : Job) (w : World) (operator : IntOperator) (form : OperandForm)
    (aside a b : Int32) :
    callNamed job w (.int (form.target aside a)) operator.name (form.supplied a b) =
      some ⟨.int (form.target aside a), w, operator.combine a b⟩ := by
  have htypes : (form.supplied a b).map Value.type =
      (IntOperation.binary operator form).signature.parameters := by
    cases form <;> rfl
  refine (callNamed_int job w _ _ htypes).trans ?_
  rw [run_binary]
  cases operator.combine a b <;> rfl

end JobScript
