import JobScript.Catalog.Signature

/-!
# Operations on Booleans, Integers and Text

Two-argument forms of the arithmetic and comparison operations act on their arguments and leave
the receiver aside: `x.add(a, b)` is `a + b`. The closing truth value of the text comparisons asks
for a match that ignores case.

## Architecture

Each type has an inductive type of operations, `signature` says how scripts call an operation, and
`catalog` lists the operations in index order.
-/

namespace JobScript

open ValueType

/-! ## Section 1: Operands -/

/-- Where a binary operation takes its left operand from. -/
inductive OperandForm where
  /-- The receiver is the left operand, the argument the right one -/
  | receiver
  /-- Both operands are arguments -/
  | arguments
  deriving DecidableEq, Repr

def OperandForm.parameters (form : OperandForm) (t : ValueType) : List ValueType :=
  match form with
  | .receiver => [t]
  | .arguments => [t, t]

/-! ## Section 2: Booleans -/

inductive BooleanOperator where
  | and | equals | notEqual | or
  deriving DecidableEq, Repr

def BooleanOperator.name : BooleanOperator → String
  | .and => "and"
  | .equals => "equals"
  | .notEqual => "notequal"
  | .or => "or"

inductive BooleanOperation where
  | binary (operator : BooleanOperator) (form : OperandForm)
  | assign
  /-- Read a truth value from text, or take the given one -/
  | assignText
  | isFalse
  | toText
  deriving DecidableEq, Repr

namespace BooleanOperation

def signature : BooleanOperation → Signature
  | .binary operator form => .producing operator.name (form.parameters boolean) boolean
  | .assign => .acting "assign" [boolean]
  | .assignText => .acting "assign" [text, boolean]
  | .isFalse => .producing "isfalse" [] boolean
  | .toText => .producing "tostring" [] text

def catalog : List BooleanOperation :=
  [.binary .and .receiver, .binary .and .arguments, .assign, .assignText,
    .binary .equals .receiver, .binary .equals .arguments, .isFalse,
    .binary .notEqual .receiver, .binary .notEqual .arguments,
    .binary .or .receiver, .binary .or .arguments, .toText]

end BooleanOperation

/-! ## Section 3: Integers -/

inductive IntOperator where
  | add | and | divide | equals | greaterThan | greaterThanOrEqualTo | lessThan | lessThanOrEqualTo
  | multiply | notEqual | or | remainder | subtract | xor
  deriving DecidableEq, Repr

namespace IntOperator

def name : IntOperator → String
  | .add => "add"
  | .and => "and"
  | .divide => "divide"
  | .equals => "equals"
  | .greaterThan => "greaterthan"
  | .greaterThanOrEqualTo => "greaterthanorequalto"
  | .lessThan => "lessthan"
  | .lessThanOrEqualTo => "lessthanorequalto"
  | .multiply => "multiply"
  | .notEqual => "notequal"
  | .or => "or"
  | .remainder => "remainder"
  | .subtract => "subtract"
  | .xor => "xor"

/-- Comparisons answer with a truth value, the others with an integer. -/
def result : IntOperator → ValueType
  | .equals | .greaterThan | .greaterThanOrEqualTo | .lessThan | .lessThanOrEqualTo
  | .notEqual => boolean
  | .add | .and | .divide | .multiply | .or | .remainder | .subtract | .xor => int

end IntOperator

inductive IntOperation where
  | binary (operator : IntOperator) (form : OperandForm)
  | assign
  /-- Read an integer from text, or take the given one -/
  | assignText
  | decrement
  | decrementBy
  | increment
  | incrementBy
  /-- Complement of the receiver's bits -/
  | not
  /-- Complement of the argument's bits -/
  | notOf
  | toText
  deriving DecidableEq, Repr

namespace IntOperation

def signature : IntOperation → Signature
  | .binary operator form => .producing operator.name (form.parameters int) operator.result
  | .assign => .acting "assign" [int]
  | .assignText => .acting "assign" [text, int]
  | .decrement => .acting "decrement" []
  | .decrementBy => .acting "decrement" [int]
  | .increment => .acting "increment" []
  | .incrementBy => .acting "increment" [int]
  | .not => .producing "not" [] int
  | .notOf => .producing "not" [int] int
  | .toText => .producing "tostring" [] text

def catalog : List IntOperation :=
  [.binary .add .receiver, .binary .add .arguments,
    .binary .and .receiver, .binary .and .arguments,
    .assign, .assignText, .decrement, .decrementBy,
    .binary .divide .receiver, .binary .divide .arguments,
    .binary .equals .receiver, .binary .equals .arguments,
    .binary .greaterThan .receiver, .binary .greaterThan .arguments,
    .binary .greaterThanOrEqualTo .receiver, .binary .greaterThanOrEqualTo .arguments,
    .increment, .incrementBy,
    .binary .lessThan .receiver, .binary .lessThan .arguments,
    .binary .lessThanOrEqualTo .receiver, .binary .lessThanOrEqualTo .arguments,
    .binary .multiply .receiver, .binary .multiply .arguments,
    .not, .notOf,
    .binary .notEqual .receiver, .binary .notEqual .arguments,
    .binary .or .receiver, .binary .or .arguments,
    .binary .remainder .receiver, .binary .remainder .arguments,
    .binary .subtract .receiver, .binary .subtract .arguments,
    .toText,
    .binary .xor .receiver, .binary .xor .arguments]

end IntOperation

/-! ## Section 4: Text -/

inductive TextOperation where
  | append
  /-- Take over an integer, as its decimal text -/
  | assignInt
  | assign
  | compareTo
  | contains
  | endsWith
  | equals
  | indexOf
  | indexOfFrom
  | isNull
  | lastIndexOf
  | lastIndexOfFrom
  | length
  | notNull
  | splitAt
  | splitAtTabs
  | startsWith
  | substringFrom
  | substring
  | toLowerCase
  | toUpperCase
  deriving DecidableEq, Repr

namespace TextOperation

def signature : TextOperation → Signature
  | .append => .producing "append" [text] text
  | .assignInt => .acting "assign" [int]
  | .assign => .acting "assign" [text]
  | .compareTo => .producing "compareto" [text, boolean] int
  | .contains => .producing "contains" [text, boolean] boolean
  | .endsWith => .producing "endswith" [text, boolean] boolean
  | .equals => .producing "equals" [text, boolean] boolean
  | .indexOf => .producing "indexof" [text, boolean] int
  | .indexOfFrom => .producing "indexof" [text, int, boolean] int
  | .isNull => .producing "isnull" [] boolean
  | .lastIndexOf => .producing "lastindexof" [text, boolean] int
  | .lastIndexOfFrom => .producing "lastindexof" [text, int, boolean] int
  | .length => .producing "length" [] int
  | .notNull => .producing "notnull" [] boolean
  | .splitAt => .producing "splitat" [text] textList
  | .splitAtTabs => .producing "splitattabs" [] textList
  | .startsWith => .producing "startswith" [text, boolean] boolean
  | .substringFrom => .producing "substring" [int] text
  | .substring => .producing "substring" [int, int] text
  | .toLowerCase => .producing "tolowercase" [] text
  | .toUpperCase => .producing "touppercase" [] text

def catalog : List TextOperation :=
  [.append, .assignInt, .assign, .compareTo, .contains, .endsWith, .equals, .indexOf, .indexOfFrom,
    .isNull, .lastIndexOf, .lastIndexOfFrom, .length, .notNull, .splitAt, .splitAtTabs,
    .startsWith, .substringFrom, .substring, .toLowerCase, .toUpperCase]

end TextOperation

end JobScript
