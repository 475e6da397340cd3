import JobScript.Random.Stream

/-!
# Random Sources

A source remembers its key and how many words of its stream are drawn. Uniform numbers below a
bound come from words by multiplication: the high half of the product is the number, and draws
whose low half lies in an uneven rest are thrown away.

## Architecture

- `Source.word32`, `Source.word64`: the next one or two words
- `Source.below32`, `Source.below64`: a uniform number below a bound
- `seedOf`: the seeds of the sources of one run
-/

namespace JobScript.Random

/-! ## Section 1: Drawing words -/

structure Source where
  key : Key
  /-- Number of words drawn so far -/
  drawn : Nat := 0
  deriving DecidableEq

namespace Source

/-- The source of a seed, nothing drawn. -/
def ofSeed (seed : UInt64) : Source where
  key := keyOfSeed seed

def word32 (s : Source) : Nat × Source :=
  ((word s.key s.drawn).toNat, { s with drawn := s.drawn + 1 })

/-- Draw two words as one number, the low word first. -/
def word64 (s : Source) : Nat × Source :=
  ((word s.key s.drawn).toNat + (word s.key (s.drawn + 1)).toNat * UInt32.size,
    { s with drawn := s.drawn + 2 })

/-! ## Section 2: Uniform numbers -/

/-- The greatest low half with which a draw counts, for numbers below `n` out of `w` bits. -/
def zone (w n : Nat) : Nat :=
  (n <<< (w - (Nat.log2 n + 1))) - 1

/-- Draw until a draw counts, at most `limit` times. -/
def drawBelow (draw : Source → Nat × Source) (w n : Nat) : (limit : Nat) → Source → Nat × Source
  | 0, s => (0, s)
  | limit + 1, s =>
    let drawn := draw s
    let product := drawn.1 * n
    -- The high half is the number; the low half decides whether the draw counts
    if product % (1 <<< w) ≤ zone w n then (product >>> w, drawn.2)
    else drawBelow draw w n limit drawn.2

/-- Number of words after which a stream repeats itself. No search for a draw that counts needs to
go on any longer. -/
def period : Nat := 1 <<< 68

/-- A uniform number below `n`, from 32-bit draws. -/
def below32 (n : Nat) : Source → Nat × Source :=
  drawBelow word32 32 n period

/-- A uniform number below `n`, from 64-bit draws. -/
def below64 (n : Nat) : Source → Nat × Source :=
  drawBelow word64 64 n period

end Source

/-! ## Section 3: The sources of a run -/

/-- Odd constant that keeps the seeds of one run apart. -/
def seedStep : UInt64 := 0x9E3779B97F4A7C15

/-- Seed of the `n`-th source of a run. -/
def seedOf (runSeed n : UInt64) : UInt64 :=
  runSeed ^^^ (n * seedStep)

end JobScript.Random
