/-!
# Decimal Integers

Integers in text: an optional single sign and at least one ASCII digit, nothing else. A number
that does not fit the wanted width reads as no number at all; nothing is cut off or wrapped.

## Architecture

- `natural?`: digits only
- `signed?`: an optional `+` or `-`, then digits
- `int32?`, `unsigned64?`: the same with the range of a width
-/

namespace JobScript.Text.Decimal

/-- The number a non-empty run of ASCII digits denotes. -/
def natural? (digits : List Char) : Option Nat :=
  if !digits.isEmpty && digits.all Char.isDigit then some (Nat.ofDigitChars 10 digits 0) else none

/-- The number denoted by digits after at most one sign. -/
def signed? : List Char → Option Int
  | '-' :: digits => (natural? digits).map fun n => -(n : Int)
  | '+' :: digits => (natural? digits).map fun n => (n : Int)
  | digits => (natural? digits).map fun n => (n : Int)

/-- The 32-bit integer a text denotes; none when the text is no integer or is out of range. -/
def int32? (s : String) : Option Int32 :=
  (signed? s.toList).bind fun n =>
    if -2147483648 ≤ n ∧ n ≤ 2147483647 then some (Int32.ofInt n) else none

/-- The unsigned number denoted by digits after at most one `+`. -/
def unsigned? : List Char → Option Nat
  | '+' :: digits => natural? digits
  | digits => natural? digits

/-- The unsigned number a text denotes, provided it is below `2 ^ 64`. -/
def unsigned64? (s : List Char) : Option Nat :=
  (unsigned? s).bind fun n => if n < UInt64.size then some n else none

/-- An integer in decimal: a `-` when negative, no `+`, no leading zeros. -/
def ofInt32 (n : Int32) : String :=
  toString n.toInt

example : int32? "-2147483648" = some (-2147483648) := by decide
example : int32? "+7" = some 7 := by decide
example : int32? "+-7" = none := by decide
example : int32? "2147483648" = none := by decide

end JobScript.Text.Decimal
