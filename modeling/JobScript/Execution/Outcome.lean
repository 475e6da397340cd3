import JobScript.World

/-!
# Outcomes of Operations

An operation works on a target and a list of argument values. Its arguments were chosen by a
signature, but nothing here relies on that: an argument of another type, or a missing one, is an
error of its own.

## Architecture

- `Result`: what an operation gives back
- `Outcome`: the target and the shared state afterwards, with the result or the cause of failure
- `Arguments`: reading the argument at a position
-/

namespace JobScript

/-! ## Section 1: Results -/

/-- What an operation gives back. -/
inductive Result where
  /-- Nothing: the operation was run for its effect -/
  | nothing
  | value (v : Value)
  /-- A new text list, which takes the next random source of the run -/
  | list (lines : List String)

namespace Result

def type : Result → Option ValueType
  | .nothing => none
  | .value v => some v.type
  | .list _ => some .textList

def boolean (b : Bool) : Result := .value (.boolean b)

def int (n : Int32) : Result := .value (.int n)

def text (s : String) : Result := .value (.text (some s))

def textOrUnset (t : Option String) : Result := .value (.text t)

end Result

/-! ## Section 2: Outcomes -/

/-- What is the case after an operation. -/
structure Outcome (σ : Type) where
  target : σ
  world : World
  result : Except Cause Result

namespace Outcome

/-- The outcome of an operation that changes nothing unless it succeeds. -/
def ofExcept {σ : Type} (target : σ) (world : World) :
    Except Cause (σ × World × Result) → Outcome σ
  | .ok (target, world, result) => ⟨target, world, .ok result⟩
  | .error cause => ⟨target, world, .error cause⟩

/-- The outcome of an operation that touches its target only. -/
def ofTarget {σ : Type} (target : σ) (world : World) (done : Except Cause (σ × Result)) :
    Outcome σ :=
  ofExcept target world (done.map fun (target, result) => (target, world, result))

/-- The same outcome for a target seen as something else. -/
def map {σ τ : Type} (f : σ → τ) (outcome : Outcome σ) : Outcome τ :=
  ⟨f outcome.target, outcome.world, outcome.result⟩

end Outcome

/-! ## Section 3: Arguments -/

namespace Arguments

variable (operation : String) (arguments : List Value) (i : Nat)

/-- The argument at a position is missing or has another type. -/
def wrongType (expected : ValueType) : Cause :=
  .argumentType operation i expected ((arguments[i]?).map Value.type)

def boolean : Except Cause Bool :=
  match arguments[i]? with
  | some (.boolean b) => .ok b
  | _ => .error (wrongType operation arguments i .boolean)

def int : Except Cause Int32 :=
  match arguments[i]? with
  | some (.int n) => .ok n
  | _ => .error (wrongType operation arguments i .int)

/-- The text at a position, which may be unset. -/
def text : Except Cause (Option String) :=
  match arguments[i]? with
  | some (.text t) => .ok t
  | _ => .error (wrongType operation arguments i .text)

/-- The text at a position; unset reads as empty. -/
def string : Except Cause String :=
  (text operation arguments i).map (·.getD "")

def textList : Except Cause TextList :=
  match arguments[i]? with
  | some (.textList l) => .ok l
  | _ => .error (wrongType operation arguments i .textList)

def mailMessage : Except Cause MailMessage :=
  match arguments[i]? with
  | some (.mailMessage m) => .ok m
  | _ => .error (wrongType operation arguments i .mailMessage)

end Arguments

/-- A length or position as an integer of the script; what is too great becomes the greatest. -/
def countToInt (n : Nat) : Int32 :=
  Int32.ofInt (min (n : Int) 2147483647)

end JobScript
