import JobScript.Catalog.Signature

/-!
# Operations on Text Lists

The closing truth value of the searches asks for a match that ignores case.
-/

namespace JobScript

open ValueType

inductive TextListOperation where
  | addValue
  | assign
  | contains
  | firstValue
  | indexOf
  | indexOfFrom
  | insert
  | isEmpty
  | isNotEmpty
  | length
  | nextValue
  | randomValue
  | remove
  | removeAll
  | removeValueAt
  | setValueAt
  | valueAt
  deriving DecidableEq, Repr

namespace TextListOperation

def signature : TextListOperation → Signature
  | .addValue => .acting "addvalue" [text]
  | .assign => .acting "assign" [textList]
  | .contains => .producing "contains" [text, boolean] boolean
  | .firstValue => .producing "firstvalue" [] text
  | .indexOf => .producing "indexof" [text, boolean] int
  | .indexOfFrom => .producing "indexof" [text, int, boolean] int
  | .insert => .acting "insert" [text, int]
  | .isEmpty => .producing "isempty" [] boolean
  | .isNotEmpty => .producing "isnotempty" [] boolean
  | .length => .producing "length" [] int
  | .nextValue => .producing "nextvalue" [] text
  | .randomValue => .producing "randomvalue" [] text
  | .remove => .producing "remove" [text, boolean] boolean
  | .removeAll => .acting "removeall" []
  | .removeValueAt => .producing "removevalueat" [int] text
  | .setValueAt => .acting "setvalueat" [text, int]
  | .valueAt => .producing "valueat" [int] text

def catalog : List TextListOperation :=
  [.addValue, .assign, .contains, .firstValue, .indexOf, .indexOfFrom, .insert, .isEmpty,
    .isNotEmpty, .length, .nextValue, .randomValue, .remove, .removeAll, .removeValueAt,
    .setValueAt, .valueAt]

end TextListOperation

end JobScript
