/-!
# Script Lines

Calls carry the line they stand on, counted from zero. Script authors count from one; the last
line a 32-bit count reaches keeps its number.
-/

namespace JobScript

/-- A line of a script, counted from zero. -/
structure Line where
  index : Nat
  deriving DecidableEq, Repr

namespace Line

/-- The greatest line number that is ever shown. -/
def lastNumber : Nat := 4294967295

/-- The line as script authors count it. -/
def number (line : Line) : Nat :=
  min (line.index + 1) lastNumber

end Line

end JobScript
