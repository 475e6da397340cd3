/-!
# Edit Distance

The least number of single-character insertions, deletions and substitutions that turn one text
into another, computed one row at a time. A row holds the distances between one beginning of the
first text and every beginning of the second.

## Architecture

- `nextCells`: the rest of a row, from the row above and the cell to the left
- `nextRow`: a whole row
- `editDistance`: the last cell of the last row
-/

namespace JobScript

namespace EditDistance

/-- The row for the empty beginning of the first text: the lengths of the second's beginnings. -/
def firstRow (b : List Char) : List Nat :=
  List.range (b.length + 1)

/-- The cells of a row to the right of `left`. `diagonal` stands above `left`, and `above` are the
cells of the row above to the right of `diagonal`, one for each character. -/
def nextCells (c : Char) (diagonal left : Nat) : List Char → List Nat → List Nat
  | d :: b, up :: above =>
    -- Substitute or keep, delete, insert
    let cell := min (min (diagonal + if c = d then 0 else 1) (up + 1)) (left + 1)
    cell :: nextCells c up cell b above
  | _, _ => []

/-- The row below `row`, for one more character of the first text. -/
def nextRow (b : List Char) (row : List Nat) (c : Char) : List Nat :=
  match row with
  | [] => []
  | corner :: above => (corner + 1) :: nextCells c corner (corner + 1) b above

/-- The row for the whole first text. -/
def lastRow (a b : List Char) : List Nat :=
  a.foldl (nextRow b) (firstRow b)

end EditDistance

/-- The edit distance of two texts, in characters. -/
def editDistance (a b : String) : Nat :=
  (EditDistance.lastRow a.toList b.toList).getLastD 0

example : editDistance "kitten" "sitting" = 3 := by decide
example : editDistance "" "abc" = 3 := by decide

end JobScript
