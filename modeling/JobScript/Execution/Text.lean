import JobScript.Catalog.Primitive
import JobScript.Execution.Outcome
import JobScript.Text.Search

/-!
# Operations on Text, Carried Out

Positions and lengths count characters. Unset text reads as empty, except that two queries tell it
from empty text and that its small and capital forms stay unset. Comparisons end in a truth value
that asks to ignore case; both sides are then taken in small letters.
-/

namespace JobScript

/-! ## Section 1: Queries -/

namespace TextQuery

/-- Receiver and needle of a comparison, in small letters if the flag asks for it. -/
def comparands (operation own : String) (arguments : List Value) (needleAt flagAt : Nat) :
    Except Cause (List Char × List Char) := do
  let needle ← Arguments.string operation arguments needleAt
  if ← Arguments.boolean operation arguments flagAt then
    return (Text.lowerChars own.toList, Text.lowerChars needle.toList)
  else return (own.toList, needle.toList)

/-- A position that may be absent, as scripts see it. -/
def positionToInt (position : Option Nat) : Int32 :=
  position.elim (-1) countToInt

/-- The least position of the needle at or after a start, which is taken into the text. -/
def indexOf (s needle : List Char) (start : Int32) : Int32 :=
  positionToInt (Text.firstFrom? needle s start.toInt.toNat)

/-- The greatest position of the needle up to a limit; none for a negative limit. -/
def lastIndexOf (s needle : List Char) (limit : Int32) : Int32 :=
  if limit < 0 then -1
  else positionToInt (Text.lastUpTo? needle s (min limit.toInt.toNat s.length))

def greatestInt : Int32 := 2147483647

/-- A character's code point as an integer of the script. -/
def codePoint (c : Char) : Int32 :=
  countToInt c.toNat

/-- Difference of the code points where two texts first differ, else of their lengths. -/
def compare (a b : List Char) : Int32 :=
  match Text.firstDifference? a b with
  | some (x, y) => codePoint x - codePoint y
  | none => countToInt a.length - countToInt b.length

/-- The position that an index means, from the beginning of a text to its end. -/
def position (operation : String) (index : Int32) (length : Nat) : Except Cause Nat :=
  if 0 ≤ index.toInt ∧ index.toInt ≤ length then .ok index.toInt.toNat
  else .error (.outOfRange operation index.toInt length)

end TextQuery

/-! ## Section 2: Operations -/

namespace TextOperation

open TextQuery in
def run (op : TextOperation) (receiver : Option String) (arguments : List Value) :
    Except Cause (Option String × Result) :=
  let name := op.signature.name
  let own := receiver.getD ""
  let compared := comparands name own arguments
  let keep (result : Result) : Option String × Result := (receiver, result)
  match op with
  | .append => do
    return keep (.text (own ++ (← Arguments.string name arguments 0)))
  | .assignInt | .assign =>
    match arguments.head? with
    | some (.int n) => .ok (some (Text.Decimal.ofInt32 n), .nothing)
    | _ => do return (← Arguments.text name arguments 0, .nothing)
  | .compareTo => do
    let (s, needle) ← compared 0 1
    return keep (.int (compare s needle))
  | .contains => do
    let (s, needle) ← compared 0 1
    return keep (.boolean (Text.contains needle s))
  | .endsWith => do
    let (s, needle) ← compared 0 1
    return keep (.boolean (needle.isSuffixOf s))
  | .startsWith => do
    let (s, needle) ← compared 0 1
    return keep (.boolean (needle.isPrefixOf s))
  | .equals => do
    let (s, needle) ← compared 0 1
    return keep (.boolean (s == needle))
  | .indexOf => do
    let (s, needle) ← compared 0 1
    return keep (.int (TextQuery.indexOf s needle 0))
  | .indexOfFrom => do
    let (s, needle) ← compared 0 2
    return keep (.int (TextQuery.indexOf s needle (← Arguments.int name arguments 1)))
  | .lastIndexOf => do
    let (s, needle) ← compared 0 1
    return keep (.int (TextQuery.lastIndexOf s needle greatestInt))
  | .lastIndexOfFrom => do
    let (s, needle) ← compared 0 2
    return keep (.int (TextQuery.lastIndexOf s needle (← Arguments.int name arguments 1)))
  | .isNull => .ok (keep (.boolean receiver.isNone))
  | .notNull => .ok (keep (.boolean receiver.isSome))
  | .length => .ok (keep (.int (countToInt own.length)))
  | .splitAt => do
    let delimiter ← Arguments.string name arguments 0
    return keep (.list ((Text.segments delimiter.toList own.toList).map String.ofList))
  | .splitAtTabs =>
    .ok (keep (.list ((Text.segments ['\t'] own.toList).map String.ofList)))
  | .substringFrom => do
    let start ← position name (← Arguments.int name arguments 0) own.length
    return keep (.text (String.ofList (own.toList.drop start)))
  | .substring => do
    let first ← Arguments.int name arguments 0
    let last ← Arguments.int name arguments 1
    -- Of two bad positions, the first is reported
    let start ← position name first own.length
    let stop ← position name last own.length
    if start ≤ stop then
      return keep (.text (String.ofList ((own.toList.drop start).take (stop - start))))
    else throw (.outOfRange name last.toInt own.length)
  | .toLowerCase => .ok (keep (.textOrUnset (receiver.map Text.toLower)))
  | .toUpperCase => .ok (keep (.textOrUnset (receiver.map Text.toUpper)))

end TextOperation

end JobScript
