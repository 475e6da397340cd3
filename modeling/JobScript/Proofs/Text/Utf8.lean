import JobScript.Text.Utf8

/-!
# Text Survives Its Encoding

What is written as UTF-8 is read back unchanged. Bytes below `0x80` stand for themselves and occur
in no longer character, so line feeds and carriage returns are found in the bytes exactly where
they are in the text.

## Architecture

- `write_eq`: text is written character by character
- `readFrom_encode`: one character is read back, whatever follows it
- `read_write`: so is a whole text
- `mem_of_mem_write`, `getLast?_of_getLast?_write`: small bytes are characters of the text
-/

namespace JobScript.Text.Utf8

open String (utf8EncodeChar)

/-! ## Section 1: Writing -/

private theorem toList_loop_eq (bytes : ByteArray) (i : Nat) (read : List UInt8) :
    ByteArray.toList.loop bytes i read = read.reverse ++ bytes.data.toList.drop i := by
  fun_induction ByteArray.toList.loop bytes i read with
  | case1 i read hlt ih =>
    have hi : i < bytes.data.toList.length := by simpa using hlt
    rw [ih, List.drop_eq_getElem_cons hi]
    simp [ByteArray.get!, hlt]
  | case2 i read hge =>
    rw [List.drop_eq_nil_of_le (by simpa using Nat.le_of_not_lt hge), List.append_nil]

theorem write_eq (s : String) : write s = s.toList.flatMap utf8EncodeChar := by
  have hbytes : s.toUTF8 = (s.toList.flatMap utf8EncodeChar).toByteArray := by
    rw [String.toUTF8_eq_toByteArray, ← String.utf8Encode_toList]
    rfl
  rw [write, hbytes, ByteArray.toList, toList_loop_eq, List.toList_data_toByteArray]
  rfl

/-! ## Section 2: Reading one character -/

private theorem toNat_continuing (code : Nat) :
    (UInt8.ofNat (code % 0x40 + 0x80)).toNat = code % 0x40 + 0x80 :=
  UInt8.toNat_ofNat_of_lt' (by simp only [UInt8.size]; omega)

/-- A byte inside a character adds six bits. -/
theorem readFrom_inside {owed low high bits code : Nat} (rest : List UInt8)
    (hlow : low ≤ code % 0x40 + 0x80) (hhigh : code % 0x40 + 0x80 ≤ high) :
    readFrom (some ⟨owed + 1, low, high, bits⟩) (UInt8.ofNat (code % 0x40 + 0x80) :: rest) =
      readFrom (some ⟨owed, 0x80, 0xBF, bits * 64 + code % 0x40⟩) rest := by
  rw [readFrom, toNat_continuing, if_pos ⟨hlow, hhigh⟩, Nat.add_sub_cancel]

/-- The last byte of a character adds six bits and completes it. -/
theorem readFrom_last (bits code : Nat) (rest : List UInt8) :
    readFrom (some ⟨0, 0x80, 0xBF, bits⟩) (UInt8.ofNat (code % 0x40 + 0x80) :: rest) =
      Char.ofNat (bits * 64 + code % 0x40) :: readFrom none rest := by
  rw [readFrom, toNat_continuing, if_pos ⟨Nat.le_add_left _ _, by dsimp only; omega⟩,
    Nat.add_sub_cancel]

/-- The first byte of two. -/
theorem opening_of_two {code : Nat} (hleast : 0x7F < code) (hgreatest : code ≤ 0x7FF) :
    opening (code / 64 % 0x20 + 0xC0) = .opens ⟨0, 0x80, 0xBF, code / 64⟩ := by
  have hsmall : code / 64 % 0x20 = code / 64 := Nat.mod_eq_of_lt (by omega)
  rw [opening, if_neg (by omega), if_neg (by omega), if_pos (by omega), hsmall,
    Nat.add_sub_cancel]

/-- The first byte of three; the second one is in its range, since the character is no
surrogate. -/
theorem opening_of_three {code : Nat} (hleast : 0x7FF < code) (hgreatest : code ≤ 0xFFFF)
    (hscalar : code < 0xD800 ∨ 0xDFFF < code) :
    ∃ low high, opening (code / 4096 % 0x10 + 0xE0) = .opens ⟨1, low, high, code / 4096⟩ ∧
      low ≤ code / 64 % 0x40 + 0x80 ∧ code / 64 % 0x40 + 0x80 ≤ high := by
  have hsmall : code / 4096 % 0x10 = code / 4096 := Nat.mod_eq_of_lt (by omega)
  rw [opening, if_neg (by omega), if_neg (by omega), if_neg (by omega), hsmall]
  by_cases hfirst : code / 4096 = 0
  · rw [if_pos (by omega), hfirst]
    exact ⟨0xA0, 0xBF, rfl, by omega, by omega⟩
  · rw [if_neg (by omega)]
    by_cases hsurrogates : code / 4096 = 0xD
    · rw [if_pos (by omega), hsurrogates]
      exact ⟨0x80, 0x9F, rfl, by omega, by omega⟩
    · rw [if_neg (by omega), if_pos (by omega), Nat.add_sub_cancel]
      exact ⟨0x80, 0xBF, rfl, by omega, by omega⟩

/-- The first byte of four; the second one is in its range, since the character lies in the
planes. -/
theorem opening_of_four {code : Nat} (hleast : 0xFFFF < code) (hgreatest : code < 0x110000) :
    ∃ low high, opening (code / 262144 % 0x08 + 0xF0) = .opens ⟨2, low, high, code / 262144⟩ ∧
      low ≤ code / 4096 % 0x40 + 0x80 ∧ code / 4096 % 0x40 + 0x80 ≤ high := by
  have hsmall : code / 262144 % 0x08 = code / 262144 := Nat.mod_eq_of_lt (by omega)
  rw [opening, if_neg (by omega), if_neg (by omega), if_neg (by omega), hsmall,
    if_neg (by omega), if_neg (by omega), if_neg (by omega)]
  by_cases hfirst : code / 262144 = 0
  · rw [if_pos (by omega), hfirst]
    exact ⟨0x90, 0xBF, rfl, by omega, by omega⟩
  · rw [if_neg (by omega)]
    by_cases hlast : code / 262144 = 4
    · rw [if_neg (by omega), if_pos (by omega), hlast]
      exact ⟨0x80, 0x8F, rfl, by omega, by omega⟩
    · rw [if_pos (by omega), Nat.add_sub_cancel]
      exact ⟨0x80, 0xBF, rfl, by omega, by omega⟩

/-- A first byte, read between two characters. -/
theorem readFrom_opening {byte : Nat} {inside : Partial} (hbyte : byte < 256)
    (hopens : opening byte = .opens inside) (rest : List UInt8) :
    readFrom none (UInt8.ofNat byte :: rest) = readFrom (some inside) rest := by
  rw [readFrom, UInt8.toNat_ofNat_of_lt' hbyte, hopens]

/-- A character is read back from its bytes, and reading goes on after them. -/
theorem readFrom_encode (c : Char) (rest : List UInt8) :
    readFrom none (utf8EncodeChar c ++ rest) = c :: readFrom none rest := by
  have hscalar : c.toNat < 0xD800 ∨ 0xDFFF < c.toNat ∧ c.toNat < 0x110000 := c.valid
  unfold utf8EncodeChar
  change readFrom none ((if c.toNat ≤ 0x7F then [UInt8.ofNat c.toNat] else _) ++ rest) = _
  -- One byte, two, three or four; the bits of the bytes add up to the character
  split
  case isTrue hone =>
    have hwhole : opening c.toNat = .whole (Char.ofNat c.toNat) := if_pos (by omega)
    rw [List.singleton_append, readFrom,
      UInt8.toNat_ofNat_of_lt' (by simp only [UInt8.size]; omega), hwhole, Char.ofNat_toNat]
  case isFalse hone =>
    change readFrom none ((if c.toNat ≤ 0x7FF then
      [UInt8.ofNat (c.toNat / 64 % 0x20 + 0xC0), UInt8.ofNat (c.toNat % 0x40 + 0x80)] else _) ++
        rest) = _
    split
    case isTrue htwo =>
      have hbits : c.toNat / 64 * 64 + c.toNat % 0x40 = c.toNat := by omega
      rw [List.cons_append, List.singleton_append,
        readFrom_opening (by omega) (opening_of_two (by omega) htwo),
        readFrom_last, hbits, Char.ofNat_toNat]
    case isFalse htwo =>
      change readFrom none ((if c.toNat ≤ 0xFFFF then
        [UInt8.ofNat (c.toNat / 4096 % 0x10 + 0xE0), UInt8.ofNat (c.toNat / 64 % 0x40 + 0x80),
          UInt8.ofNat (c.toNat % 0x40 + 0x80)] else
        [UInt8.ofNat (c.toNat / 262144 % 0x08 + 0xF0), UInt8.ofNat (c.toNat / 4096 % 0x40 + 0x80),
          UInt8.ofNat (c.toNat / 64 % 0x40 + 0x80), UInt8.ofNat (c.toNat % 0x40 + 0x80)]) ++
        rest) = _
      split
      case isTrue hthree =>
        obtain ⟨low, high, hopens, hlow, hhigh⟩ :=
          opening_of_three (by omega) hthree (by omega)
        have hbits : (c.toNat / 4096 * 64 + c.toNat / 64 % 0x40) * 64 + c.toNat % 0x40 =
            c.toNat := by omega
        simp only [List.cons_append, List.nil_append]
        rw [readFrom_opening (by omega) hopens, readFrom_inside _ hlow hhigh, readFrom_last, hbits,
          Char.ofNat_toNat]
      case isFalse hthree =>
        obtain ⟨low, high, hopens, hlow, hhigh⟩ :=
          opening_of_four (Nat.lt_of_not_le hthree) (by omega)
        have hbits : ((c.toNat / 262144 * 64 + c.toNat / 4096 % 0x40) * 64 +
            c.toNat / 64 % 0x40) * 64 + c.toNat % 0x40 = c.toNat := by omega
        simp only [List.cons_append, List.nil_append]
        rw [readFrom_opening (by omega) hopens, readFrom_inside _ hlow hhigh,
          readFrom_inside _ (by omega) (by omega), readFrom_last, hbits, Char.ofNat_toNat]

/-- Characters are read back from their bytes, and reading goes on after them. -/
theorem readFrom_chars (chars : List Char) (rest : List UInt8) :
    readFrom none (chars.flatMap utf8EncodeChar ++ rest) = chars ++ readFrom none rest := by
  induction chars with
  | nil => rfl
  | cons c chars ih =>
    rw [List.flatMap_cons, List.append_assoc, readFrom_encode, ih, List.cons_append]

theorem readFrom_write (s : String) : readFrom none (write s) = s.toList := by
  simpa [write_eq, readFrom] using readFrom_chars s.toList []

/-- **What is written is read back.** -/
theorem read_write (s : String) : read (write s) = s := by
  rw [read, readFrom_write, String.ofList_toList]

/-! ## Section 3: Small bytes -/

/-- A byte below `0x80` occurs in no character but the one it stands for. -/
theorem toNat_eq_of_mem_encode {byte : UInt8} {c : Char} (hsmall : byte.toNat < 0x80)
    (hmem : byte ∈ utf8EncodeChar c) : c.toNat = byte.toNat := by
  -- All bytes of longer characters are greater
  have hgreat {least code m : Nat} (hleast : 0x80 ≤ least) (hm : 0 < m) (hfits : m + least ≤ 256)
      (hbyte : byte = UInt8.ofNat (code % m + least)) : False := by
    have hlt := Nat.mod_lt code hm
    rw [hbyte, UInt8.toNat_ofNat_of_lt' (by simp only [UInt8.size]; omega)] at hsmall
    omega
  unfold utf8EncodeChar at hmem
  dsimp only at hmem
  split at hmem
  · rename_i hone
    obtain rfl := List.mem_singleton.mp hmem
    exact (UInt8.toNat_ofNat_of_lt' (Nat.lt_of_le_of_lt hone (by decide))).symm
  · split at hmem
    · simp only [List.mem_cons, List.not_mem_nil, or_false] at hmem
      rcases hmem with h | h
      · exact (hgreat (by decide) (by decide) (by decide) h).elim
      · exact (hgreat (by decide) (by decide) (by decide) h).elim
    · split at hmem
      · simp only [List.mem_cons, List.not_mem_nil, or_false] at hmem
        rcases hmem with h | h | h
        all_goals exact (hgreat (by decide) (by decide) (by decide) h).elim
      · simp only [List.mem_cons, List.not_mem_nil, or_false] at hmem
        rcases hmem with h | h | h | h
        all_goals exact (hgreat (by decide) (by decide) (by decide) h).elim

/-- A small byte in a written text is a character of the text. -/
theorem mem_of_mem_write {s : String} {byte : UInt8} (hsmall : byte.toNat < 0x80)
    (hmem : byte ∈ write s) : Char.ofNat byte.toNat ∈ s.toList := by
  rw [write_eq] at hmem
  obtain ⟨c, hc, hbyte⟩ := List.mem_flatMap.mp hmem
  rw [← toNat_eq_of_mem_encode hsmall hbyte, Char.ofNat_toNat]
  exact hc

/-- A small byte at the end of a written text is the text's last character. -/
theorem getLast?_of_getLast?_write {s : String} {byte : UInt8} (hsmall : byte.toNat < 0x80)
    (hlast : (write s).getLast? = some byte) : s.toList.getLast? = some (Char.ofNat byte.toNat) := by
  rw [write_eq] at hlast
  rcases List.eq_nil_or_concat s.toList with hnil | ⟨before, c, hconcat⟩
  · rw [hnil] at hlast
    cases hlast
  · have hbyte : byte ∈ utf8EncodeChar c := by
      -- A character has bytes, so the last byte is one of the last character
      obtain ⟨last, hencode⟩ := Option.ne_none_iff_exists'.mp
        (mt List.getLast?_eq_none_iff.mp (String.utf8EncodeChar_ne_nil (c := c)))
      rw [hconcat, List.concat_eq_append, List.flatMap_append, List.flatMap_singleton,
        List.getLast?_append, hencode, Option.some_or] at hlast
      obtain rfl := Option.some.inj hlast
      exact List.mem_of_getLast? hencode
    rw [hconcat, List.concat_eq_append, List.getLast?_concat, ← toNat_eq_of_mem_encode hsmall hbyte,
      Char.ofNat_toNat]

end JobScript.Text.Utf8
