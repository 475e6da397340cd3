import JobScript.Proofs.Operands.Calls
import Mathlib.Data.List.Induction

/-!
# Integers in Text

A numeral is a run of decimal digits, and at most one sign in front of it makes it denote an integer.
A text is read as the integer that it denotes, provided that it has 32 bits, and as a given integer
otherwise; nothing is cut off or wrapped round. Integers are written in such a way that reading gives
them back.

## Architecture

- `Numeral`, `Denotes`: the numbers and integers that characters stand for
- `natural?_eq_some_iff`, `signed?_eq_some_iff`, `int32?_eq_some_iff`: what is read
- `denotes_toString`, `int32?_ofInt32`: what is written
- `IsReading`, `isReading_getD`: the integer that is chosen for a text
- `callNamed_assignText`, `callNamed_intArgument`: the operations that read integers
- `callNamed_toText`, `callNamed_assignInt`: the operations that write them
- `integers_in_text_exact`: all of them together
-/

namespace JobScript

namespace Text.Decimal

variable {digits s : List Char} {n : Nat} {i : Int} {c : Char}

/-! ## Section 1: Numerals -/

/-- A run of decimal digits and the number that it stands for. One more digit counts for itself, and
makes ten times as much of what stands before it. -/
inductive Numeral : List Char → Nat → Prop where
  | digit {d : Nat} (hd : d < 10) : Numeral [d.digitChar] d
  | more {digits : List Char} {n d : Nat} (h : Numeral digits n) (hd : d < 10) :
    Numeral (digits ++ [d.digitChar]) (10 * n + d)

/-- An integer and the characters that denote it: a numeral after at most one sign. -/
inductive Denotes : List Char → Int → Prop where
  | unsigned {digits : List Char} {n : Nat} (h : Numeral digits n) : Denotes digits n
  | plus {digits : List Char} {n : Nat} (h : Numeral digits n) : Denotes ('+' :: digits) n
  | minus {digits : List Char} {n : Nat} (h : Numeral digits n) : Denotes ('-' :: digits) (-n)

namespace Numeral

theorem ne_nil (h : Numeral digits n) : digits ≠ [] := by
  cases h <;> simp

theorem isDigit (h : Numeral digits n) : ∀ c ∈ digits, c.isDigit = true := by
  induction h with
  | digit hd => simpa [Nat.isDigit_digitChar] using hd
  | more h hd ih =>
    intro c hc
    rcases List.mem_append.mp hc with hc | hc
    · exact ih c hc
    · obtain rfl := List.mem_singleton.mp hc
      simpa [Nat.isDigit_digitChar] using hd

theorem ofDigitChars_eq (h : Numeral digits n) : Nat.ofDigitChars 10 digits 0 = n := by
  induction h with
  | digit hd => rw [Nat.ofDigitChars_cons_digitChar_of_lt_ten hd, Nat.ofDigitChars_nil, Nat.mul_zero,
      Nat.zero_add]
  | more h hd ih => rw [Nat.ofDigitChars_append, ih, Nat.ofDigitChars_cons_digitChar_of_lt_ten hd,
      Nat.ofDigitChars_nil]

end Numeral

theorem exists_digitChar (h : c.isDigit = true) : ∃ d < 10, c = d.digitChar := by
  have hrange : '0'.toNat ≤ c.toNat ∧ c.toNat ≤ '9'.toNat := by
    simpa [Char.isDigit, UInt32.le_iff_toNat_le] using h
  have hzero : '0'.toNat = 48 := rfl
  have hnine : '9'.toNat = 57 := rfl
  refine ⟨c.toNat - 48, by omega, ?_⟩
  rw [← Char.toNat_inj, Nat.toNat_digitChar_of_lt_ten (by omega)]
  omega

/-- Digits are a numeral. -/
theorem numeral_ofDigitChars (hne : digits ≠ []) (hdigits : ∀ c ∈ digits, c.isDigit = true) :
    Numeral digits (Nat.ofDigitChars 10 digits 0) := by
  -- From the end: the last digit is the one that counts for itself
  induction digits using List.reverseRecOn with
  | nil => exact absurd rfl hne
  | append_singleton digits c ih =>
    obtain ⟨d, hd, rfl⟩ := exists_digitChar (hdigits c (by simp))
    rw [Nat.ofDigitChars_append, Nat.ofDigitChars_cons_digitChar_of_lt_ten hd, Nat.ofDigitChars_nil]
    rcases eq_or_ne digits [] with rfl | hdigitsne
    · simpa using Numeral.digit hd
    · exact .more (ih hdigitsne fun c hc => hdigits c (List.mem_append_left _ hc)) hd

theorem natural?_eq_some_iff : natural? digits = some n ↔ Numeral digits n := by
  constructor
  · intro h
    unfold natural? at h
    split at h
    · rename_i hvalid
      obtain rfl := Option.some.inj h
      simp only [Bool.and_eq_true, Bool.not_eq_true', List.isEmpty_eq_false_iff,
        List.all_eq_true] at hvalid
      exact numeral_ofDigitChars hvalid.1 hvalid.2
    · cases h
  · intro h
    have hvalid : (!digits.isEmpty && digits.all Char.isDigit) = true := by
      simpa using ⟨h.ne_nil, h.isDigit⟩
    rw [natural?, if_pos hvalid, h.ofDigitChars_eq]

/-! ## Section 2: Integers -/

/-- The integers made of what digits are read as. -/
theorem map_natural?_eq_some_iff {f : Int → Int} :
    Option.map f (do return ((← natural? digits : Nat) : Int)) = some i ↔
      ∃ n : Nat, Numeral digits n ∧ f n = i := by
  simp only [Option.map_eq_some_iff, Option.bind_eq_bind, Option.bind_eq_some_iff, Option.pure_def,
    Option.some_inj, natural?_eq_some_iff]
  constructor
  · rintro ⟨-, ⟨n, hn, rfl⟩, hi⟩
    exact ⟨n, hn, hi⟩
  · rintro ⟨n, hn, hi⟩
    exact ⟨n, ⟨n, hn, rfl⟩, hi⟩

theorem signed?_eq_some_iff : signed? s = some i ↔ Denotes s i := by
  constructor
  · intro h
    unfold signed? at h
    split at h <;> obtain ⟨n, hn, rfl⟩ := map_natural?_eq_some_iff.mp h
    · exact .minus hn
    · exact .plus hn
    · exact .unsigned hn
  · intro h
    cases h with
    | minus h => exact map_natural?_eq_some_iff.mpr ⟨_, h, rfl⟩
    | plus h => exact map_natural?_eq_some_iff.mpr ⟨_, h, rfl⟩
    | unsigned h =>
      -- A numeral does not begin with a sign
      unfold signed?
      split
      · exact absurd (h.isDigit '-' List.mem_cons_self) (by decide)
      · exact absurd (h.isDigit '+' List.mem_cons_self) (by decide)
      · exact map_natural?_eq_some_iff.mpr ⟨_, h, rfl⟩

theorem int32_range (x : Int32) : -2147483648 ≤ x.toInt ∧ x.toInt ≤ 2147483647 :=
  ⟨x.le_toInt, Int.le_of_lt_add_one x.toInt_lt⟩

/-- **What is read** is the integer that the text denotes, which then has 32 bits. -/
theorem int32?_eq_some_iff {s : String} {x : Int32} :
    int32? s = some x ↔ Denotes s.toList x.toInt := by
  rw [int32?, Option.bind_eq_some_iff]
  constructor
  · rintro ⟨i, hi, hx⟩
    split at hx
    · rename_i hrange
      obtain rfl := Option.some.inj hx
      rw [Int32.toInt_ofInt_of_le (by omega) (by omega)]
      exact signed?_eq_some_iff.mp hi
    · cases hx
  · intro h
    refine ⟨x.toInt, signed?_eq_some_iff.mpr h, ?_⟩
    rw [if_pos (int32_range x), Int32.ofInt_toInt]

theorem numeral_toDigits (n : Nat) : Numeral (Nat.toDigits 10 n) n := by
  have h := numeral_ofDigitChars Nat.toDigits_ne_nil
    fun c hc => Nat.isDigit_of_mem_toDigits (b := 10) (n := n) (by decide) (by decide) hc
  rwa [Nat.ofDigitChars_ten_toDigits] at h

/-- An integer is written so as to denote itself. -/
theorem denotes_toString (i : Int) : Denotes (toString i).toList i := by
  cases i with
  | ofNat n =>
    have hchars : (toString (Int.ofNat n)).toList = Nat.toDigits 10 n := Nat.toList_repr
    rw [hchars]
    exact .unsigned (numeral_toDigits n)
  | negSucc n =>
    have hchars : (toString (Int.negSucc n)).toList = '-' :: Nat.toDigits 10 (n + 1) := by
      change ("-" ++ Nat.repr (n + 1)).toList = _
      rw [String.toList_append, Nat.toList_repr]
      rfl
    rw [hchars]
    exact .minus (numeral_toDigits (n + 1))

theorem int32?_ofInt32 (n : Int32) : int32? (ofInt32 n) = some n :=
  int32?_eq_some_iff.mpr (denotes_toString n.toInt)

/-! ## Section 3: Readings -/

/-- The integer that is chosen for a text, or for text that is unset: the one that it denotes, if
that has 32 bits, and else a given one. -/
structure IsReading (t : Option String) (otherwise x : Int32) : Prop where
  denoted (s : String) (i : Int) : t = some s → Denotes s.toList i →
    -2147483648 ≤ i ∧ i ≤ 2147483647 → x.toInt = i
  otherwise : (∀ s i, t = some s → Denotes s.toList i →
    ¬ (-2147483648 ≤ i ∧ i ≤ 2147483647)) → x = otherwise

theorem isReading_getD (t : Option String) (d : Int32) : IsReading t d ((t.bind int32?).getD d) where
  denoted s i ht hi hrange := by
    have hvalue : (Int32.ofInt i).toInt = i := Int32.toInt_ofInt_of_le (by omega) (by omega)
    have hread : int32? s = some (Int32.ofInt i) := int32?_eq_some_iff.mpr (by rwa [hvalue])
    rw [ht, Option.bind_some, hread, Option.getD_some, hvalue]
  otherwise hnone := by
    -- Whatever is read is denoted, and has 32 bits
    have hread : t.bind int32? = none := by
      rw [Option.bind_eq_none_iff]
      intro s hs
      rw [Option.eq_none_iff_forall_ne_some]
      intro n hn
      exact hnone s n.toInt hs (int32?_eq_some_iff.mp hn) (int32_range n)
    rw [hread, Option.getD_none]

end Text.Decimal

/-! ## Section 4: Operations -/

open Text.Decimal

section

variable (job : Job) (w : World) (t : Option String) (d n previous : Int32)

theorem callNamed_assignText :
    callNamed job w (.int previous) "assign" [.text t, .int d] =
      some ⟨.int ((t.bind int32?).getD d), w, .ok .nothing⟩ := by
  refine (callNamed_int job w .assignText previous rfl).trans ?_
  cases hread : t.bind int32? <;>
    simp only [IntOperation.run, Arguments.text, List.getElem?_cons_zero, bind, Except.bind,
      hread] <;>
    rfl

theorem callNamed_intArgument (source : Random.Source) (key : Option String) :
    callNamed job w (.script source) "getscriptintargument" [.text key, .int d] =
      some ⟨.script source, w, .ok (.int
        (((job.settings.argument? (Text.toLower (key.getD ""))).bind int32?).getD d))⟩ := by
  refine (callNamed_script job w .intArgument source rfl).trans ?_
  cases hread : (job.settings.argument? (Text.toLower (key.getD ""))).bind int32? <;>
    simp only [ScriptOperation.run, Arguments.string, Arguments.text, List.getElem?_cons_zero,
      Except.map, bind, Except.bind, pure, Except.pure, hread] <;>
    rfl

theorem callNamed_toText :
    callNamed job w (.int n) "tostring" [] =
      some ⟨.int n, w, .ok (.text (ofInt32 n))⟩ :=
  callNamed_int job w .toText n rfl

theorem callNamed_assignInt :
    callNamed job w (.text t) "assign" [.int n] =
      some ⟨.text (some (ofInt32 n)), w, .ok .nothing⟩ :=
  callNamed_text job w .assignInt t rfl

/-- **Integers in text are exact**: assigning text to an integer reads it, whatever the integer was
before; an integer argument of the script is what assigning its value gives; and text that is made
of an integer, by either operation, is read as that integer, whatever is given for other text. -/
theorem integers_in_text_exact (job : Job) (w : World) :
    (∀ (previous d : Int32) (t : Option String), ∃ x : Int32,
      callNamed job w (.int previous) "assign" [.text t, .int d] =
        some ⟨.int x, w, .ok .nothing⟩ ∧ IsReading t d x) ∧
    (∀ (source : Random.Source) (key : Option String) (previous d : Int32), ∃ x : Int32,
      callNamed job w (.script source) "getscriptintargument" [.text key, .int d] =
        some ⟨.script source, w, .ok (.int x)⟩ ∧
      callNamed job w (.int previous) "assign"
        [.text (job.settings.argument? (Text.toLower (key.getD ""))), .int d] =
        some ⟨.int x, w, .ok .nothing⟩) ∧
    ∀ (n previous d : Int32) (t : Option String), ∃ written assigned : String,
      callNamed job w (.int n) "tostring" [] = some ⟨.int n, w, .ok (.text written)⟩ ∧
      callNamed job w (.text t) "assign" [.int n] =
        some ⟨.text (some assigned), w, .ok .nothing⟩ ∧
      ∀ s ∈ [written, assigned],
        callNamed job w (.int previous) "assign" [.text (some s), .int d] =
          some ⟨.int n, w, .ok .nothing⟩ := by
  refine ⟨fun previous d t => ?_, fun source key previous d => ?_, fun n previous d t => ?_⟩
  · exact ⟨_, callNamed_assignText job w t d previous, isReading_getD t d⟩
  · exact ⟨_, callNamed_intArgument job w d source key, callNamed_assignText job w _ d previous⟩
  · -- Both operations write the same text
    refine ⟨_, _, callNamed_toText job w n, callNamed_assignInt job w t n, fun s hs => ?_⟩
    obtain rfl : s = ofInt32 n := by simpa using hs
    rw [callNamed_assignText, Option.bind_some, int32?_ofInt32, Option.getD_some]

end

end JobScript
