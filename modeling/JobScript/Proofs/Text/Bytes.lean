import JobScript.Proofs.Text.Utf8
import Mathlib.Data.List.Infix
import Mathlib.Tactic.SplitIfs

/-!
# Texts Among Bytes

No byte that opens a character is accepted inside of one. So bytes of a text are found among other
bytes only where the text itself is found: a text stands at the front of another, at its end or
anywhere in it exactly if its bytes do.

## Architecture

- `OpensCharacter`, `Partial.Continues`: first bytes, and what is accepted inside a character
- `readFrom_append`: a first byte is read as one, whatever stands before it
- `write_prefix_iff`, `write_suffix_iff`, `write_infix_iff`: bytes of a text and the text
-/

namespace JobScript.Text.Utf8

open String (utf8EncodeChar)

/-! ## Section 1: First bytes -/

/-- A byte that opens a character. -/
def OpensCharacter (byte : UInt8) : Prop :=
  byte.toNat < 0x80 ∨ 0xBF < byte.toNat

/-- The next byte of an unfinished character is none that opens one. -/
def Partial.Continues (inside : Partial) : Prop :=
  0x80 ≤ inside.low ∧ inside.high ≤ 0xBF

theorem continues_of_opening {byte : Nat} {inside : Partial}
    (h : opening byte = .opens inside) : inside.Continues := by
  unfold opening at h
  unfold Partial.Continues
  split_ifs at h
  all_goals
    cases h
    simp

theorem opensCharacter_encode (c : Char) :
    ∃ byte rest, utf8EncodeChar c = byte :: rest ∧ OpensCharacter byte := by
  have hgreat {least code m : Nat} (hleast : 0xBF < least) (hm : 0 < m) (hfits : m + least ≤ 256) :
      OpensCharacter (UInt8.ofNat (code % m + least)) := by
    have hlt := Nat.mod_lt code hm
    right
    rw [UInt8.toNat_ofNat_of_lt' (by simp only [UInt8.size]; omega)]
    omega
  unfold utf8EncodeChar
  dsimp only
  -- One byte, or the first one of two, three or four
  split
  case isTrue hone =>
    refine ⟨_, _, rfl, .inl ?_⟩
    rw [UInt8.toNat_ofNat_of_lt' (Nat.lt_of_le_of_lt hone (by decide))]
    exact Nat.lt_succ_of_le hone
  case isFalse =>
    split
    · exact ⟨_, _, rfl, hgreat (by decide) (by decide) (by decide)⟩
    · split
      · exact ⟨_, _, rfl, hgreat (by decide) (by decide) (by decide)⟩
      · exact ⟨_, _, rfl, hgreat (by decide) (by decide) (by decide)⟩

/-! ## Section 2: Reading on -/

/-- A byte that does not continue a character is read as a first one. -/
theorem readFrom_broken {inside : Partial} {byte : UInt8}
    (hbroken : ¬(inside.low ≤ byte.toNat ∧ byte.toNat ≤ inside.high)) (rest : List UInt8) :
    readFrom (some inside) (byte :: rest) = replacement :: readFrom none (byte :: rest) := by
  simp [readFrom, hbroken]

/-- These bytes go on with no unfinished character. -/
def BreaksOff (bytes : List UInt8) : Prop :=
  ∀ inside : Partial, inside.Continues →
    readFrom (some inside) bytes = replacement :: readFrom none bytes

theorem breaksOff_of_opensCharacter {byte : UInt8} (hopens : OpensCharacter byte)
    (rest : List UInt8) : BreaksOff (byte :: rest) := by
  intro inside hinside
  apply readFrom_broken
  unfold OpensCharacter at hopens
  unfold Partial.Continues at hinside
  omega

/-- What stands before such bytes has no effect on how they are read. -/
theorem readFrom_append {bytes : List UInt8} (hbreaks : BreaksOff bytes) (before : List UInt8)
    (state : Option Partial) (hstate : ∀ inside ∈ state, inside.Continues) :
    readFrom state (before ++ bytes) = readFrom state before ++ readFrom none bytes := by
  -- Between characters, and inside of one: the second case falls back on the first
  have hnone {before : List UInt8} (ih : ∀ state, (∀ inside ∈ state, inside.Continues) →
      readFrom state (before ++ bytes) = readFrom state before ++ readFrom none bytes)
      (byte : UInt8) : readFrom none (byte :: before ++ bytes)
        = readFrom none (byte :: before) ++ readFrom none bytes := by
    simp only [List.cons_append, readFrom]
    cases h : opening byte.toNat with
    | whole c => simp [ih none]
    | opens inside =>
      apply ih
      rintro _ ⟨⟩
      exact continues_of_opening h
    | bad => simp [ih none]
  induction before generalizing state with
  | nil =>
    cases state with
    | none => simp [readFrom]
    | some inside => simpa [readFrom] using hbreaks inside (hstate inside rfl)
  | cons byte before ih =>
    cases state with
    | none => exact hnone ih byte
    | some inside =>
      by_cases hgood : inside.low ≤ byte.toNat ∧ byte.toNat ≤ inside.high
      · simp only [List.cons_append, readFrom, if_pos hgood]
        split
        · simp [ih none]
        · apply ih
          rintro _ ⟨⟩
          exact ⟨le_rfl, le_rfl⟩
      · rw [readFrom_broken hgood, List.cons_append, readFrom_broken hgood, ← List.cons_append,
          hnone ih, List.cons_append]

/-! ## Section 3: Texts inside texts -/

/-- A written text is read back wherever it stands. -/
theorem readFrom_around {text : String} (hsome : text.toList ≠ []) (before after : List UInt8) :
    readFrom none (before ++ (write text ++ after))
      = readFrom none before ++ (text.toList ++ readFrom none after) := by
  obtain ⟨c, rest, hchars⟩ := List.exists_cons_of_ne_nil hsome
  obtain ⟨byte, bytes, hencode, hopens⟩ := opensCharacter_encode c
  have hbreaks : BreaksOff (write text ++ after) := by
    rw [write_eq, hchars, List.flatMap_cons, hencode]
    exact breaksOff_of_opensCharacter hopens _
  rw [readFrom_append hbreaks before none (by simp), write_eq, readFrom_chars]

variable {needle s : String}

theorem write_prefix_iff : write needle <+: write s ↔ needle.toList <+: s.toList := by
  constructor
  · rintro ⟨after, h⟩
    refine ⟨readFrom none after, ?_⟩
    rw [← readFrom_write s, ← h, write_eq, readFrom_chars]
  · rintro ⟨after, h⟩
    refine ⟨after.flatMap utf8EncodeChar, ?_⟩
    rw [write_eq, write_eq, ← h, List.flatMap_append]

theorem write_infix_iff : write needle <:+: write s ↔ needle.toList <:+: s.toList := by
  constructor
  · rintro ⟨before, after, h⟩
    by_cases hsome : needle.toList = []
    · rw [hsome]
      exact List.nil_infix
    · refine ⟨readFrom none before, readFrom none after, ?_⟩
      rw [← readFrom_write s, ← h, List.append_assoc, List.append_assoc,
        readFrom_around hsome]
  · rintro ⟨before, after, h⟩
    refine ⟨before.flatMap utf8EncodeChar, after.flatMap utf8EncodeChar, ?_⟩
    rw [write_eq, write_eq, ← h, List.flatMap_append, List.flatMap_append]

theorem write_suffix_iff : write needle <:+ write s ↔ needle.toList <:+ s.toList := by
  constructor
  · rintro ⟨before, h⟩
    by_cases hsome : needle.toList = []
    · rw [hsome]
      exact List.nil_suffix
    · refine ⟨readFrom none before, ?_⟩
      rw [← readFrom_write s, ← h, ← List.append_nil (write needle), readFrom_around hsome]
      simp [readFrom]
  · rintro ⟨before, h⟩
    refine ⟨before.flatMap utf8EncodeChar, ?_⟩
    rw [write_eq, write_eq, ← h, List.flatMap_append]

end JobScript.Text.Utf8
