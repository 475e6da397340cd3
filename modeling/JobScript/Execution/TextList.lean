import JobScript.Catalog.TextList
import JobScript.Execution.Outcome

/-!
# Operations on Text Lists, Carried Out

A search with three arguments has a start; with any other number it starts at the beginning.
-/

namespace JobScript

namespace TextListOperation

/-- Start and flag of a search. -/
def searchFrom (operation : String) (arguments : List Value) : Except Cause (Nat × Bool) := do
  if arguments.length = 3 then
    let start ← Arguments.int operation arguments 1
    return (start.toInt.toNat, ← Arguments.boolean operation arguments 2)
  else return (0, ← Arguments.boolean operation arguments 1)

def run (op : TextListOperation) (receiver : TextList) (arguments : List Value) :
    Except Cause (TextList × Result) :=
  let name := op.signature.name
  let keep (result : Result) : TextList × Result := (receiver, result)
  let effect (l : TextList) : TextList × Result := (l, .nothing)
  match op with
  | .addValue => do return effect (receiver.push (← Arguments.text name arguments 0))
  | .assign => do return effect (receiver.assign (← Arguments.textList name arguments 0))
  | .contains => do
    let needle ← Arguments.text name arguments 0
    let ignoreCase ← Arguments.boolean name arguments 1
    return keep (.boolean (receiver.contains needle ignoreCase))
  | .firstValue =>
    let read := receiver.firstValue
    .ok (read.1, .textOrUnset read.2)
  | .indexOf | .indexOfFrom => do
    let needle ← Arguments.text name arguments 0
    let (start, ignoreCase) ← searchFrom name arguments
    return keep (.int ((receiver.position? needle start ignoreCase).elim (-1) countToInt))
  -- Where a value goes to an index, the index is read first
  | .insert => do
    let index ← Arguments.int name arguments 1
    let value ← Arguments.text name arguments 0
    return effect (← receiver.insert index value)
  | .isEmpty => .ok (keep (.boolean receiver.values.isEmpty))
  | .isNotEmpty => .ok (keep (.boolean (!receiver.values.isEmpty)))
  | .length => .ok (keep (.int (countToInt receiver.length)))
  | .nextValue =>
    let read := receiver.nextValue
    .ok (read.1, .textOrUnset read.2)
  | .randomValue =>
    let read := receiver.randomValue
    .ok (read.1, .textOrUnset read.2)
  | .remove => do
    let needle ← Arguments.text name arguments 0
    let ignoreCase ← Arguments.boolean name arguments 1
    let removed := receiver.removeFirst needle ignoreCase
    return (removed.1, .boolean removed.2)
  | .removeAll => .ok (effect receiver.clear)
  | .removeValueAt => do
    let removed ← receiver.removeAt (← Arguments.int name arguments 0)
    return (removed.1, .textOrUnset removed.2)
  | .setValueAt => do
    let index ← Arguments.int name arguments 1
    let value ← Arguments.text name arguments 0
    return effect (← receiver.setAt index value)
  | .valueAt => do
    return keep (.textOrUnset (← receiver.valueAt (← Arguments.int name arguments 0)))

end TextListOperation

end JobScript
