/-!
# Searching and Cutting Text

Positions count characters, from zero. Everything here works on the characters of a text.

## Architecture

- `occursAt`: a needle stands at a position
- `firstFrom?`, `lastUpTo?`: the least and the greatest such position within a bound
- `segments`: the pieces between the leftmost occurrences of a delimiter
- `firstDifference?`: the characters at which two texts part
-/

namespace JobScript.Text

/-! ## Section 1: Occurrences -/

/-- The needle stands at position `i` of the text. -/
def occursAt (needle s : List Char) (i : Nat) : Bool :=
  i ≤ s.length && needle.isPrefixOf (s.drop i)

/-- The least position in the text at which the needle stands. -/
def first? (needle : List Char) : List Char → Option Nat
  | [] => if needle.isEmpty then some 0 else none
  | c :: rest =>
    if needle.isPrefixOf (c :: rest) then some 0 else (first? needle rest).map (· + 1)

/-- The least position at or after `start` at which the needle stands. A start beyond the end
counts as the end. -/
def firstFrom? (needle s : List Char) (start : Nat) : Option Nat :=
  (first? needle (s.drop (min start s.length))).map (· + min start s.length)

/-- The greatest position up to `limit` at which the needle stands. -/
def lastUpTo? (needle s : List Char) : (limit : Nat) → Option Nat
  | 0 => if occursAt needle s 0 then some 0 else none
  | limit + 1 =>
    if occursAt needle s (limit + 1) then some (limit + 1) else lastUpTo? needle s limit

def contains (needle s : List Char) : Bool :=
  (first? needle s).isSome

/-! ## Section 2: Segments -/

/-- Put a character in front of the first segment. -/
def consFirst (c : Char) : List (List Char) → List (List Char)
  | [] => [[c]]
  | segment :: rest => (c :: segment) :: rest

/-- The segments of a text after `skipped` characters that still belong to a delimiter. -/
def segmentsAfter (delimiter : List Char) : (skipped : Nat) → List Char → List (List Char)
  | _, [] => [[]]
  | skipped + 1, _ :: rest => segmentsAfter delimiter skipped rest
  | 0, c :: rest =>
    -- The other characters of a delimiter found here are passed over
    if delimiter.isPrefixOf (c :: rest) then
      [] :: segmentsAfter delimiter (delimiter.length - 1) rest
    else consFirst c (segmentsAfter delimiter 0 rest)

/-- The pieces of a text between the leftmost occurrences of a delimiter, empty ones included. An
empty delimiter leaves the text whole. -/
def segments (delimiter s : List Char) : List (List Char) :=
  if delimiter.isEmpty then [s] else segmentsAfter delimiter 0 s

/-! ## Section 3: Differences -/

/-- The characters at which two texts first differ. There are none if one of the texts begins with
the other. -/
def firstDifference? : List Char → List Char → Option (Char × Char)
  | a :: as, b :: bs => if a = b then firstDifference? as bs else some (a, b)
  | _, _ => none

example : segments [','] "a,,b".toList = ["a".toList, [], "b".toList] := by decide
example : segments "aa".toList "aaab".toList = [[], "ab".toList] := by decide
example : firstFrom? "b".toList "abcb".toList 2 = some 3 := by decide
example : firstFrom? [] "abc".toList 9 = some 3 := by decide
example : lastUpTo? "b".toList "abcb".toList 2 = some 1 := by decide

end JobScript.Text
