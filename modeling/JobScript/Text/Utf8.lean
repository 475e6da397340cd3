/-!
# Reading UTF-8

Servers send bytes. Their text is read as UTF-8; where the bytes are no UTF-8, a replacement
character stands for every longest beginning of a character that breaks off.

The reader looks at one byte at a time. Between characters it decides what a first byte announces;
inside a character it knows how many bytes are owed, which values the next one may have, and the
value collected so far.
-/

namespace JobScript.Text.Utf8

/-- The character that stands for bytes that are no UTF-8. -/
def replacement : Char := '\uFFFD'

/-- A character of which some bytes are still owed. -/
structure Partial where
  /-- Bytes owed after the next one -/
  owed : Nat
  /-- Least value of the next byte -/
  low : Nat
  /-- Greatest value of the next byte -/
  high : Nat
  /-- The bits collected so far -/
  bits : Nat
  deriving DecidableEq, Repr

/-- What a byte means between two characters. -/
inductive Opening where
  | whole (c : Char)
  /-- It opens a longer character -/
  | opens (rest : Partial)
  /-- It cannot stand here -/
  | bad
  deriving DecidableEq, Repr

/-- Read a byte between two characters. -/
def opening (byte : Nat) : Opening :=
  if byte < 0x80 then .whole (Char.ofNat byte)
  -- Continuation bytes, and two that could only spell ASCII at length
  else if byte < 0xC2 then .bad
  else if byte < 0xE0 then .opens ⟨0, 0x80, 0xBF, byte - 0xC0⟩
  -- Three bytes: no shorter spelling exists, and surrogates are left out
  else if byte = 0xE0 then .opens ⟨1, 0xA0, 0xBF, 0⟩
  else if byte = 0xED then .opens ⟨1, 0x80, 0x9F, 0xD⟩
  else if byte < 0xF0 then .opens ⟨1, 0x80, 0xBF, byte - 0xE0⟩
  -- Four bytes: no shorter spelling exists, and the last plane is the end
  else if byte = 0xF0 then .opens ⟨2, 0x90, 0xBF, 0⟩
  else if byte < 0xF4 then .opens ⟨2, 0x80, 0xBF, byte - 0xF0⟩
  else if byte = 0xF4 then .opens ⟨2, 0x80, 0x8F, 4⟩
  else .bad

/-- Read on from between two characters (`none`) or from inside one. -/
def readFrom : Option Partial → List UInt8 → List Char
  | none, [] => []
  | some _, [] => [replacement]
  | none, byte :: rest =>
    match opening byte.toNat with
    | .whole c => c :: readFrom none rest
    | .opens inside => readFrom (some inside) rest
    | .bad => replacement :: readFrom none rest
  | some inside, byte :: rest =>
    if inside.low ≤ byte.toNat ∧ byte.toNat ≤ inside.high then
      let bits := inside.bits * 64 + (byte.toNat - 0x80)
      match inside.owed with
      | 0 => Char.ofNat bits :: readFrom none rest
      | owed + 1 => readFrom (some ⟨owed, 0x80, 0xBF, bits⟩) rest
    else
      -- The broken character is replaced, and this byte is read as a first one
      replacement ::
        match opening byte.toNat with
        | .whole c => c :: readFrom none rest
        | .opens inside => readFrom (some inside) rest
        | .bad => replacement :: readFrom none rest

def read (bytes : List UInt8) : String :=
  String.ofList (readFrom none bytes)

def write (s : String) : List UInt8 :=
  s.toUTF8.toList

example : read [0x61, 0xC3, 0xA9] = "aé" := by decide
example : read [0xE2, 0x82, 0x41, 0xFF] = "\uFFFDA\uFFFD" := by decide
example : read [0xF0, 0x9F, 0x98, 0x80] = "😀" := by decide
example : read [0xED, 0xA0, 0x80] = "\uFFFD\uFFFD\uFFFD" := by decide

end JobScript.Text.Utf8
