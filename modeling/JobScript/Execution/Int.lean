import JobScript.Catalog.Primitive
import JobScript.Execution.Outcome

/-!
# Operations on Integers, Carried Out

Arithmetic wraps at 32 bits. Division truncates toward zero and the remainder takes the sign of
the dividend. Two arguments are both operands; with any other number of arguments, the receiver is
the left operand.
-/

namespace JobScript

/-- Combine two operands. -/
def IntOperator.combine (operator : IntOperator) (a b : Int32) : Except Cause Result :=
  match operator with
  | .add => .ok (.int (a + b))
  | .subtract => .ok (.int (a - b))
  | .multiply => .ok (.int (a * b))
  | .divide => if b = 0 then .error .divisionByZero else .ok (.int (a / b))
  | .remainder => if b = 0 then .error .remainderByZero else .ok (.int (a % b))
  | .and => .ok (.int (a &&& b))
  | .or => .ok (.int (a ||| b))
  | .xor => .ok (.int (a ^^^ b))
  | .equals => .ok (.boolean (a == b))
  | .notEqual => .ok (.boolean (a != b))
  | .greaterThan => .ok (.boolean (decide (b < a)))
  | .greaterThanOrEqualTo => .ok (.boolean (decide (b ≤ a)))
  | .lessThan => .ok (.boolean (decide (a < b)))
  | .lessThanOrEqualTo => .ok (.boolean (decide (a ≤ b)))

namespace IntOperation

/-- The operands of a binary operation. -/
def operands (operation : String) (receiver : Int32) (arguments : List Value) :
    Except Cause (Int32 × Int32) := do
  if arguments.length = 2 then
    return (← Arguments.int operation arguments 0, ← Arguments.int operation arguments 1)
  else return (receiver, ← Arguments.int operation arguments 0)

def run (op : IntOperation) (receiver : Int32) (arguments : List Value) :
    Except Cause (Int32 × Result) :=
  let argument := Arguments.int op.signature.name arguments
  match op with
  | .binary operator _ => do
    let (a, b) ← operands op.signature.name receiver arguments
    return (receiver, ← operator.combine a b)
  | .assign => do return (← argument 0, .nothing)
  | .assignText => do
    let text ← Arguments.text op.signature.name arguments 0
    match text.bind Text.Decimal.int32? with
    | some n => return (n, .nothing)
    | none => return (← argument 1, .nothing)
  | .increment => .ok (receiver + 1, .nothing)
  | .incrementBy => do return (receiver + (← argument 0), .nothing)
  | .decrement => .ok (receiver - 1, .nothing)
  | .decrementBy => do return (receiver - (← argument 0), .nothing)
  | .not => .ok (receiver, .int (~~~receiver))
  | .notOf => do return (receiver, .int (~~~(← argument 0)))
  | .toText => .ok (receiver, .text (Text.Decimal.ofInt32 receiver))

end IntOperation

end JobScript
