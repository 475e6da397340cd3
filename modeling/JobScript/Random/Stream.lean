/-!
# A Stream of Random Words

Random sources draw 32-bit words from a keyed stream: blocks of sixteen words, each computed from
the key and the block's number by twelve rounds of additions, exclusive ors and rotations. The
same key always gives the same stream.

## Architecture

- `quarterRound`, `doubleRound`: the mixing of a block
- `block`: the words of one block
- `word`: a word of the stream by its position
- `keyOfSeed`: the key that a 64-bit seed is stretched to
-/

namespace JobScript.Random

/-! ## Section 1: Blocks -/

/-- The sixteen words of a block. -/
abbrev Block := Vector UInt32 16

/-- The eight words of a key. -/
abbrev Key := Vector UInt32 8

/-- Rotate the bits of a word to the left. -/
def rotateLeft (x : UInt32) (n : UInt32) : UInt32 :=
  (x <<< n) ||| (x >>> (32 - n))

/-- Add the word at `b` to the one at `a`, and mix the sum into the word at `d`. -/
def mix (a b d : Fin 16) (turn : UInt32) (v : Block) : Block :=
  let sum := v.get a + v.get b
  (v.set a sum).set d (rotateLeft (v.get d ^^^ sum) turn)

/-- Mix four words of a block with each other. -/
def quarterRound (a b c d : Fin 16) (v : Block) : Block :=
  mix c d b 7 (mix a b d 8 (mix c d b 12 (mix a b d 16 v)))

/-- Mix the columns of a block, then its diagonals. -/
def doubleRound (v : Block) : Block :=
  -- The block is a square of four rows: columns are four apart, diagonals five
  let columns :=
    quarterRound 3 7 11 15
      (quarterRound 2 6 10 14 (quarterRound 1 5 9 13 (quarterRound 0 4 8 12 v)))
  quarterRound 3 4 9 14
    (quarterRound 2 7 8 13 (quarterRound 1 6 11 12 (quarterRound 0 5 10 15 columns)))

/-- A block before mixing: four constants, the key, the block's number in two words, two zeros. -/
def seedBlock (key : Key) (number : Nat) : Block :=
  #v[0x61707865, 0x3320646e, 0x79622d32, 0x6b206574,
    key.get 0, key.get 1, key.get 2, key.get 3, key.get 4, key.get 5, key.get 6, key.get 7,
    UInt32.ofNat number, UInt32.ofNat (number / UInt32.size), 0, 0]

/-- The words of a block: six double rounds over the seed block, added to it. -/
def block (key : Key) (number : Nat) : Block :=
  let seed := seedBlock key number
  Vector.zipWith (· + ·) (Nat.repeat doubleRound 6 seed) seed

/-- The word at a position of the stream. -/
def word (key : Key) (position : Nat) : UInt32 :=
  (block key (position / 16)).get ⟨position % 16, Nat.mod_lt _ (by decide)⟩

/-! ## Section 2: Keys from seeds -/

/-- The next state of the generator that stretches seeds. -/
def stretch (state : UInt64) : UInt64 :=
  state * 6364136223846793005 + 11634580027462260723

/-- The key word that a state of the stretching generator gives. -/
def keyWord (state : UInt64) : UInt32 :=
  let shifted := (((state >>> 18) ^^^ state) >>> 27).toUInt32
  -- The five highest bits say how far the word is turned to the right
  let turn := (state >>> 59).toUInt32
  (shifted >>> turn) ||| (shifted <<< ((32 - turn) % 32))

/-- The key of a 64-bit seed: one word for each of the next eight states. -/
def keyOfSeed (seed : UInt64) : Key :=
  Vector.ofFn fun i => keyWord (Nat.repeat stretch (i.val + 1) seed)

end JobScript.Random
