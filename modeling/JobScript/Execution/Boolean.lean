import JobScript.Catalog.Primitive
import JobScript.Execution.Outcome

/-!
# Operations on Booleans, Carried Out

A left operand that settles a conjunction or disjunction is not compared any further: the right
operand is then not even looked at.
-/

namespace JobScript

/-- Combine two operands. The right one is read only if it matters. -/
def BooleanOperator.combine (operator : BooleanOperator) (left : Bool) (right : Except Cause Bool) :
    Except Cause Bool :=
  match operator with
  | .and => if left then right else .ok false
  | .or => if left then .ok true else right
  | .equals => right.map (left == ·)
  | .notEqual => right.map (left != ·)

namespace BooleanOperation

def run (op : BooleanOperation) (receiver : Bool) (arguments : List Value) :
    Except Cause (Bool × Result) :=
  let argument := Arguments.boolean op.signature.name arguments
  match op with
  | .binary operator .receiver => do
    return (receiver, .boolean (← operator.combine receiver (argument 0)))
  | .binary operator .arguments => do
    let left ← argument 0
    return (receiver, .boolean (← operator.combine left (argument 1)))
  | .assign => do return (← argument 0, .nothing)
  | .assignText => do
    let text ← Arguments.text op.signature.name arguments 0
    match text.bind Text.truthValue? with
    | some b => return (b, .nothing)
    | none => return (← argument 1, .nothing)
  | .isFalse => .ok (receiver, .boolean (!receiver))
  | .toText => .ok (receiver, .text (Value.booleanText receiver))

end BooleanOperation

end JobScript
