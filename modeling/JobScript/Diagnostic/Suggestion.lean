import JobScript.Diagnostic.EditDistance
import JobScript.Text.Ascii

/-!
# Suggestions for Misspelled Names

A misspelled name is answered with the candidate closest to it, if one is close enough to be a
typing error. How close depends on the length of the name in bytes, so that a typing error in a
short name never suggests an unrelated word.
-/

namespace JobScript.Suggestion

/-- The greatest distance at which a candidate is suggested for a name of this many bytes. -/
def limit (size : Nat) : Nat :=
  if size = 0 then 0 else if size ≤ 3 then 1 else if size ≤ 7 then 2 else 3

/-- Difference of two sizes, whichever is the larger. -/
def sizeGap (m n : Nat) : Nat :=
  (m - n) + (n - m)

/-- Candidates within the limit, each with its distance from the needle. Candidates whose size
alone rules them out are skipped before a distance is computed. -/
def close (needle : String) (limit : Nat) (candidates : List String) : List (String × Nat) :=
  ((candidates.filter fun c => sizeGap needle.utf8ByteSize c.utf8ByteSize ≤ limit).map
    fun c => (c, editDistance needle c)).filter fun found => found.2 ≤ limit

/-- The first of the pairs with the least second component. -/
def nearest? : List (String × Nat) → Option (String × Nat)
  | [] => none
  | found :: rest =>
    match nearest? rest with
    | none => some found
    -- Of equals, the earlier one
    | some other => if found.2 ≤ other.2 then some found else some other

/-- The closest candidate to a name, the earliest among equally close ones. The case of the name's
ASCII letters does not matter; candidates are taken as they are written. -/
def similar? (name : String) (candidates : List String) : Option String :=
  (nearest? (close (Text.asciiLower name) (limit name.utf8ByteSize) candidates)).map Prod.fst

end JobScript.Suggestion
