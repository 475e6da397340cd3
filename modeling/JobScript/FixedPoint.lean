/-!
# Numbers with Three Places

Averages are printed with three decimal places. The exact value of the number is rounded, and a
value halfway between two candidates goes to the one with an even last digit.

## Architecture

- `roundHalfEven`: a quotient of natural numbers, rounded
- `Binary`: the exact value of a floating-point number, as sign, significand and power of two
- `render`: the printed form
-/

namespace JobScript.FixedPoint

/-- The natural number nearest to `n / d`; of two equally near, the even one. -/
def roundHalfEven (n d : Nat) : Nat :=
  let q := n / d
  let r := n % d
  if 2 * r < d then q else if d < 2 * r then q + 1 else if q % 2 = 0 then q else q + 1

/-- A number `± significand * 2 ^ exponent`. -/
structure Binary where
  negative : Bool
  significand : Nat
  exponent : Int
  deriving DecidableEq, Repr

/-- The exact value behind the bits of a finite double. -/
def Binary.ofBits (bits : UInt64) : Binary :=
  let biased := (bits.toNat >>> 52) % 2048
  let fraction := bits.toNat % (1 <<< 52)
  { negative := 1 <<< 63 ≤ bits.toNat
    -- The smallest numbers have no leading bit of their own, and the exponent of the next ones
    significand := if biased = 0 then fraction else (1 <<< 52) + fraction
    exponent := (max 1 biased : Nat) - 1075 }

/-- The magnitude of the number in thousandths, rounded. -/
def Binary.thousandths (x : Binary) : Nat :=
  if 0 ≤ x.exponent then (x.significand <<< x.exponent.toNat) * 1000
  else roundHalfEven (x.significand * 1000) (1 <<< (-x.exponent).toNat)

def threeDigits (n : Nat) : String :=
  String.ofList [Nat.digitChar (n / 100 % 10), Nat.digitChar (n / 10 % 10), Nat.digitChar (n % 10)]

def Binary.render (x : Binary) : String :=
  (if x.negative then "-" else "") ++ toString (x.thousandths / 1000) ++ "." ++
    threeDigits (x.thousandths % 1000)

/-- A finite double with three decimal places. -/
def render (x : Float) : String :=
  (Binary.ofBits x.toBits).render

example : (Binary.ofBits 0x3FC5555555649AB5).render = "0.167" := by decide +kernel
example : (Binary.ofBits 0x3FB0000000000000).render = "0.062" := by decide +kernel
example : (Binary.ofBits 0xBFB8000000000000).render = "-0.094" := by decide +kernel

end JobScript.FixedPoint
