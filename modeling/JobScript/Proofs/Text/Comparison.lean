import JobScript.Proofs.Text.Searches
import JobScript.Proofs.Text.SmallForms
import Mathlib.Order.Lattice.Nat
import Mathlib.Data.List.Lex

/-!
# Texts in Order

Scripts compare two texts by a difference: that of the code points where the texts first differ, or
else that of their lengths. No such difference is too great for an integer. Its sign puts texts in
the order of a dictionary, as far as their lengths are integers of the script when they are
compared; texts grow if their small letters are more than their letters.

## Architecture

- `firstDifference?_eq_some_iff`, `firstDifference?_eq_none_iff`: where two texts part;
  `begins_or_parts`
- `codePoints`: the order of a dictionary; `codePoints_lt_iff`, `codePoints_lt_iff_of_beginning`
- `Subtracts`, `compare_subtracts`: the difference that is taken
- `Ranks`, `compare_ranks`: the order that its sign tells
- `compareTo_orders_texts`: all answers of the operation
- `dottedCapitals`, `grown_texts_compare_as_same`: texts that grow beyond the greatest integer
-/

namespace JobScript

namespace Text

variable {s t before restS restT : List Char} {x y : Char}

/-! ## Section 1: Where texts part -/

theorem firstDifference?_eq_some_iff :
    firstDifference? s t = some (x, y) ↔
      ∃ before restS restT, s = before ++ x :: restS ∧ t = before ++ y :: restT ∧ x ≠ y := by
  induction s generalizing t with
  | nil =>
    simp [firstDifference?]
  | cons a s ih =>
    cases t with
    | nil => simp [firstDifference?]
    | cons b t =>
      by_cases hab : a = b
      · subst hab
        rw [firstDifference?, if_pos rfl, ih]
        constructor
        · rintro ⟨before, restS, restT, rfl, rfl, hne⟩
          exact ⟨a :: before, restS, restT, rfl, rfl, hne⟩
        · rintro ⟨before, restS, restT, hs, ht, hne⟩
          -- What both texts begin with is not empty, since they begin alike
          cases before with
          | nil =>
            obtain ⟨rfl, -⟩ := List.cons.inj hs
            obtain ⟨rfl, -⟩ := List.cons.inj ht
            exact absurd rfl hne
          | cons c before =>
            obtain ⟨rfl, rfl⟩ := List.cons.inj hs
            obtain ⟨-, rfl⟩ := List.cons.inj ht
            exact ⟨before, restS, restT, rfl, rfl, hne⟩
      · rw [firstDifference?, if_neg hab, Option.some_inj, Prod.mk.injEq]
        constructor
        · rintro ⟨rfl, rfl⟩
          exact ⟨[], s, t, rfl, rfl, hab⟩
        · rintro ⟨before, restS, restT, hs, ht, -⟩
          cases before with
          | nil => exact ⟨(List.cons.inj hs).1, (List.cons.inj ht).1⟩
          | cons c before =>
            exact absurd ((List.cons.inj hs).1.trans (List.cons.inj ht).1.symm) hab

theorem firstDifference?_eq_none_iff : firstDifference? s t = none ↔ s <+: t ∨ t <+: s := by
  induction s generalizing t with
  | nil => simp [firstDifference?]
  | cons a s ih =>
    cases t with
    | nil => simp [firstDifference?]
    | cons b t =>
      rw [firstDifference?, List.cons_prefix_cons, List.cons_prefix_cons, eq_comm (a := b)]
      by_cases hab : a = b
      · simp [hab, ih]
      · simp [hab]

/-- Two texts part somewhere, or one of them begins with the other. -/
theorem begins_or_parts (s t : List Char) :
    (s <+: t ∨ t <+: s) ∨ ∃ before x y restS restT,
      s = before ++ x :: restS ∧ t = before ++ y :: restT ∧ x ≠ y := by
  cases hfirst : firstDifference? s t with
  | none => exact .inl (firstDifference?_eq_none_iff.mp hfirst)
  | some characters =>
    obtain ⟨x, y⟩ := characters
    obtain ⟨before, restS, restT, hs, ht, hne⟩ := firstDifference?_eq_some_iff.mp hfirst
    exact .inr ⟨before, x, y, restS, restT, hs, ht, hne⟩

theorem eq_of_beginning (hbegins : s <+: t ∨ t <+: s) (hlength : s.length = t.length) : s = t := by
  rcases hbegins with h | h
  · exact h.eq_of_length hlength
  · exact (h.eq_of_length hlength.symm).symm

/-! ## Section 2: The order of a dictionary -/

/-- The code points of a text. As lists of numbers, they are ordered by the first number that
differs; a list comes after those that it begins with. -/
def codePoints (s : List Char) : List Nat :=
  s.map Char.toNat

/-- Where texts part, the code points decide. -/
theorem codePoints_lt_iff (hne : x ≠ y) :
    codePoints (before ++ x :: restS) < codePoints (before ++ y :: restT) ↔
      x.toNat < y.toNat := by
  induction before with
  | nil =>
    have hcode : x.toNat ≠ y.toNat := fun h => hne (Char.toNat_inj.mp h)
    simp [codePoints, List.cons_lt_cons_iff, hcode]
  | cons c before ih => simpa [codePoints, List.cons_lt_cons_iff] using ih

/-- If texts do not part, the shorter one comes first. -/
theorem codePoints_lt_iff_of_beginning (hbegins : s <+: t ∨ t <+: s) :
    codePoints s < codePoints t ↔ s.length < t.length := by
  rcases hbegins with h | h
  · have hnot : ¬ codePoints t < codePoints s := List.not_lt.mpr (h.map Char.toNat).le
    constructor
    · intro hlt
      apply lt_of_le_of_ne h.length_le
      intro hlength
      rw [h.eq_of_length hlength] at hlt
      exact lt_irrefl _ hlt
    · intro hlength
      rcases lt_trichotomy (codePoints s) (codePoints t) with hlt | hsame | hgt
      · exact hlt
      · have := congrArg List.length hsame
        simp [codePoints] at this
        omega
      · exact absurd hgt hnot
  · have hnot : ¬ codePoints s < codePoints t := List.not_lt.mpr (h.map Char.toNat).le
    exact iff_of_false hnot h.length_le.not_gt

end Text

/-! ## Section 3: Differences -/

namespace TextQuery

variable {s t : List Char} {answer : Int32}

/-- The answer is a difference as it is among all integers: that of the code points where the texts
first differ, or that of the lengths, each at most the greatest integer of the script. -/
structure Subtracts (s t : List Char) (answer : Int32) : Prop where
  of_difference (before : List Char) (x y : Char) (restS restT : List Char) :
    s = before ++ x :: restS → t = before ++ y :: restT → x ≠ y →
      answer.toInt = (x.toNat : Int) - y.toNat
  of_beginning : s <+: t ∨ t <+: s →
    answer.toInt = min (s.length : Int) 2147483647 - min (t.length : Int) 2147483647

/-- Counts are not negative, so that no difference of two of them is too great. -/
theorem toInt_countToInt_sub (m n : Nat) :
    (countToInt m - countToInt n).toInt = min (m : Int) 2147483647 - min (n : Int) 2147483647 := by
  rw [Int32.toInt_sub, toInt_countToInt, toInt_countToInt]
  apply Int.bmod_eq_of_le <;> omega

/-- Code points are less than the greatest integer. -/
theorem toInt_codePoint_sub (x y : Char) :
    (codePoint x - codePoint y).toInt = (x.toNat : Int) - y.toNat := by
  have hx : x.toNat < 0xD800 ∨ 0xDFFF < x.toNat ∧ x.toNat < 0x110000 := x.valid
  have hy : y.toNat < 0xD800 ∨ 0xDFFF < y.toNat ∧ y.toNat < 0x110000 := y.valid
  rw [codePoint, codePoint, toInt_countToInt_sub]
  omega

theorem compare_subtracts (s t : List Char) : Subtracts s t (TextQuery.compare s t) where
  of_difference before x y restS restT hs ht hne := by
    have hfirst := Text.firstDifference?_eq_some_iff.mpr ⟨before, restS, restT, hs, ht, hne⟩
    simp only [TextQuery.compare, hfirst, toInt_codePoint_sub]
  of_beginning hbegins := by
    have hnone := Text.firstDifference?_eq_none_iff.mpr hbegins
    simp only [TextQuery.compare, hnone, toInt_countToInt_sub]

/-- The other way round, the difference is the negative one. -/
theorem Subtracts.toInt_swap {swapped : Int32} (h : Subtracts s t answer)
    (hswapped : Subtracts t s swapped) : swapped.toInt = -answer.toInt := by
  rcases Text.begins_or_parts s t with hbegins | ⟨before, x, y, restS, restT, hs, ht, hne⟩
  · rw [h.of_beginning hbegins, hswapped.of_beginning hbegins.symm]
    omega
  · rw [h.of_difference before x y restS restT hs ht hne,
      hswapped.of_difference before y x restT restS ht hs hne.symm]
    omega

/-- Only texts that are equal have no difference, but for texts that are longer than the greatest
integer and do not part. -/
theorem Subtracts.toInt_eq_zero_iff (h : Subtracts s t answer) :
    answer.toInt = 0 ↔ s = t ∨
      ((s <+: t ∨ t <+: s) ∧ 2147483647 ≤ s.length ∧ 2147483647 ≤ t.length) := by
  constructor
  · intro hzero
    rcases Text.begins_or_parts s t with hbegins | ⟨before, x, y, restS, restT, hs, ht, hne⟩
    · have hdifference := h.of_beginning hbegins
      by_cases hlength : s.length = t.length
      · exact .inl (Text.eq_of_beginning hbegins hlength)
      · exact .inr ⟨hbegins, by omega, by omega⟩
    · have hdifference := h.of_difference before x y restS restT hs ht hne
      have hcode : x.toNat = y.toNat := by omega
      exact absurd (Char.toNat_inj.mp hcode) hne
  · rintro (rfl | ⟨hbegins, hs, ht⟩)
    · rw [h.of_beginning (.inl (List.prefix_refl _))]
      omega
    · rw [h.of_beginning hbegins]
      omega

/-! ## Section 4: Order -/

/-- The sign of the answer tells which of two texts comes first in a dictionary. -/
structure Ranks (s t : List Char) (answer : Int32) : Prop where
  before_iff : answer < 0 ↔ Text.codePoints s < Text.codePoints t
  same_iff : answer = 0 ↔ s = t
  after_iff : 0 < answer ↔ Text.codePoints t < Text.codePoints s

/-- Lengths that fit integers are subtracted as they are. -/
theorem Subtracts.toInt_neg_iff (h : Subtracts s t answer) (hs : s.length ≤ 2147483647)
    (ht : t.length ≤ 2147483647) :
    answer.toInt < 0 ↔ Text.codePoints s < Text.codePoints t := by
  rcases Text.begins_or_parts s t with hbegins | ⟨before, x, y, restS, restT, rfl, rfl, hne⟩
  · rw [h.of_beginning hbegins, Text.codePoints_lt_iff_of_beginning hbegins]
    omega
  · rw [h.of_difference before x y restS restT rfl rfl hne, Text.codePoints_lt_iff hne]
    omega

theorem compare_ranks (hs : s.length ≤ 2147483647) (ht : t.length ≤ 2147483647) :
    Ranks s t (TextQuery.compare s t) where
  before_iff := by
    rw [Int32.lt_iff_toInt_lt, Int32.toInt_zero]
    exact (compare_subtracts s t).toInt_neg_iff hs ht
  same_iff := by
    rw [← Int32.toInt_inj, Int32.toInt_zero, (compare_subtracts s t).toInt_eq_zero_iff]
    constructor
    · rintro (hsame | ⟨hbegins, hlong, hlong'⟩)
      · exact hsame
      · -- Both lengths are the greatest integer
        exact Text.eq_of_beginning hbegins (by omega)
    · exact .inl
  after_iff := by
    have hswap := (compare_subtracts s t).toInt_swap (compare_subtracts t s)
    rw [← (compare_subtracts t s).toInt_neg_iff ht hs, hswap, Int32.lt_iff_toInt_lt,
      Int32.toInt_zero]
    omega

/-- The answer is not positive exactly if the text does not come after the other one. -/
theorem Ranks.nonpos_iff (h : Ranks s t answer) :
    answer ≤ 0 ↔ ¬ Text.codePoints t < Text.codePoints s := by
  rw [← h.after_iff, Int32.not_lt]

end TextQuery

/-! ## Section 5: The operation `compareto` -/

namespace TextOperation

open TextQuery

theorem run_compareTo (receiver other : Option String) (ignoreCase : Bool) :
    compareTo.run receiver [.text other, .boolean ignoreCase] =
      .ok (receiver, .int
        (TextQuery.compare (compared receiver ignoreCase) (compared other ignoreCase))) := by
  cases ignoreCase <;> rfl

/-- **Comparing texts orders them**: comparing gives an answer for every two texts and leaves the
first as it is. The answer is an exact difference, so none is too great for an integer, and the
other way round it is the negative one. It is 0 exactly for equal texts, apart from two that are at
least as long as the greatest integer and do not part. For texts that are not longer than that, as
they are compared, the sign of the answer is the order of the code points, 0 is what the operation
for equality says, and the order goes on from one text to the next. -/
theorem compareTo_orders_texts (ignoreCase : Bool) :
    ∃ answer : Option String → Option String → Int32,
      (∀ a b, compareTo.run a [.text b, .boolean ignoreCase] = .ok (a, .int (answer a b)) ∧
        Subtracts (compared a ignoreCase) (compared b ignoreCase) (answer a b) ∧
        (answer b a).toInt = -(answer a b).toInt ∧
        (answer a b = 0 ↔ compared a ignoreCase = compared b ignoreCase ∨
          ((compared a ignoreCase <+: compared b ignoreCase ∨
              compared b ignoreCase <+: compared a ignoreCase) ∧
            2147483647 ≤ (compared a ignoreCase).length ∧
            2147483647 ≤ (compared b ignoreCase).length))) ∧
      ∀ a b c, (compared a ignoreCase).length ≤ 2147483647 →
        (compared b ignoreCase).length ≤ 2147483647 →
        (compared c ignoreCase).length ≤ 2147483647 →
          Ranks (compared a ignoreCase) (compared b ignoreCase) (answer a b) ∧
          equals.run a [.text b, .boolean ignoreCase] =
            .ok (a, .boolean (answer a b == 0)) ∧
          (answer a b ≤ 0 → answer b c ≤ 0 → answer a c ≤ 0) := by
  refine ⟨fun a b => TextQuery.compare (compared a ignoreCase) (compared b ignoreCase), ?_, ?_⟩
  · intro a b
    have hsubtracts := compare_subtracts (compared a ignoreCase) (compared b ignoreCase)
    refine ⟨run_compareTo a b ignoreCase, hsubtracts, ?_, ?_⟩
    · exact hsubtracts.toInt_swap (compare_subtracts _ _)
    · rw [← Int32.toInt_inj, Int32.toInt_zero, hsubtracts.toInt_eq_zero_iff]
  · intro a b c ha hb hc
    have hab := compare_ranks ha hb
    have hbc := compare_ranks hb hc
    have hac := compare_ranks ha hc
    refine ⟨hab, ?_, ?_⟩
    · have hsame : (compared a ignoreCase == compared b ignoreCase) =
          (TextQuery.compare (compared a ignoreCase) (compared b ignoreCase) == 0) := by
        rw [Bool.eq_iff_iff, beq_iff_eq, beq_iff_eq, hab.same_iff]
      rw [run_equals, hsame]
    · rw [hab.nonpos_iff, hbc.nonpos_iff, hac.nonpos_iff]
      exact fun hle hle' => not_lt.mpr ((not_lt.mp hle).trans (not_lt.mp hle'))

/-- Two spellings of a word are one when case is ignored, and both come before a longer word. -/
theorem spellings_before_longer_word :
    (compared (some "Ab") true).length ≤ 2147483647 ∧
      (compared (some "aB") true).length ≤ 2147483647 ∧
      (compared (some "abc") true).length ≤ 2147483647 ∧
      ∃ ab bc ac : Int32,
        compareTo.run (some "Ab") [.text (some "aB"), .boolean true] =
          .ok (some "Ab", .int ab) ∧
        compareTo.run (some "aB") [.text (some "abc"), .boolean true] =
          .ok (some "aB", .int bc) ∧
        compareTo.run (some "Ab") [.text (some "abc"), .boolean true] =
          .ok (some "Ab", .int ac) ∧
        ab = 0 ∧ bc.toInt = -1 ∧ ac ≤ 0 := by
  have ha : compared (some "Ab") true = ['a', 'b'] := by decide +kernel
  have hb : compared (some "aB") true = ['a', 'b'] := by decide +kernel
  have hc : compared (some "abc") true = ['a', 'b', 'c'] := by decide +kernel
  obtain ⟨answer, hanswer, hfits⟩ := compareTo_orders_texts true
  have hlengths : (compared (some "Ab") true).length ≤ 2147483647 ∧
      (compared (some "aB") true).length ≤ 2147483647 ∧
      (compared (some "abc") true).length ≤ 2147483647 := by
    simp [ha, hb, hc]
  obtain ⟨hla, hlb, hlc⟩ := hlengths
  obtain ⟨hab, -, htrans⟩ := hfits (some "Ab") (some "aB") (some "abc") hla hlb hlc
  have hsame : answer (some "Ab") (some "aB") = 0 := hab.same_iff.mpr (ha.trans hb.symm)
  have hlonger : (answer (some "aB") (some "abc")).toInt = -1 := by
    have hbegins : compared (some "aB") true <+: compared (some "abc") true := by
      simp [hb, hc]
    simpa [hb, hc] using (hanswer (some "aB") (some "abc")).2.1.of_beginning (.inl hbegins)
  refine ⟨hla, hlb, hlc, _, _, _, (hanswer _ _).1, (hanswer _ _).1, (hanswer _ _).1, hsame,
    hlonger, htrans (Int32.le_of_eq hsame) ?_⟩
  rw [Int32.le_iff_toInt_le, hlonger]
  decide

/-- So many capital letters that each become two characters. -/
def dottedCapitals (n : Nat) : String :=
  String.ofList (List.replicate n Text.dottedCapitalI)

theorem compared_dottedCapitals (n : Nat) :
    compared (some (dottedCapitals n)) true =
      (List.replicate n Text.dottedCapitalI).flatMap Text.lowerChar := by
  have hplain : Text.capitalSigma ∉ List.replicate n Text.dottedCapitalI := fun hsigma =>
    absurd (List.eq_of_mem_replicate hsigma) (by decide)
  simp only [compared, dottedCapitals, Option.getD_some, String.toList_ofList, if_true,
    Text.lowerChars_eq_flatMap hplain]

theorem length_compared_dottedCapitals (n : Nat) :
    (compared (some (dottedCapitals n)) true).length = 2 * n := by
  have hgrows : (Text.lowerChar Text.dottedCapitalI).length = 2 := by decide +kernel
  rw [compared_dottedCapitals, List.flatMap_replicate]
  simp [hgrows, Nat.mul_comm]

/-- The greatest integer is the length of both texts as far as scripts can tell, and the shorter one
is the beginning of the other. -/
theorem run_compareTo_dottedCapitals {m n : Nat} (hm : 2147483647 ≤ 2 * m) (hmn : m ≤ n) :
    compareTo.run (some (dottedCapitals m)) [.text (some (dottedCapitals n)), .boolean true] =
      .ok (some (dottedCapitals m), .int 0) := by
  have hbegins : compared (some (dottedCapitals m)) true <+:
      compared (some (dottedCapitals n)) true := by
    rw [compared_dottedCapitals, compared_dottedCapitals, ← Nat.add_sub_cancel' hmn,
      List.replicate_add, List.flatMap_append]
    exact List.prefix_append _ _
  have hsubtracts := compare_subtracts (compared (some (dottedCapitals m)) true)
    (compared (some (dottedCapitals n)) true)
  have hzero := hsubtracts.toInt_eq_zero_iff.mpr (.inr ⟨.inl hbegins,
    by rw [length_compared_dottedCapitals]; omega, by rw [length_compared_dottedCapitals]; omega⟩)
  rw [run_compareTo, Int32.toInt_inj.mp (hzero.trans Int32.toInt_zero.symm)]

theorem run_equals_dottedCapitals {m n : Nat} (hmn : m ≠ n) :
    equals.run (some (dottedCapitals m)) [.text (some (dottedCapitals n)), .boolean true] =
      .ok (some (dottedCapitals m), .boolean false) := by
  have hdiffer : compared (some (dottedCapitals m)) true ≠
      compared (some (dottedCapitals n)) true := by
    intro hsame
    have hlength := congrArg List.length hsame
    rw [length_compared_dottedCapitals, length_compared_dottedCapitals] at hlength
    omega
  rw [run_equals, beq_eq_false_iff_ne.mpr hdiffer]

/-- The lengths of two texts that differ are integers, but those of their small letters are not:
ignoring case, comparing gives 0 and the texts are not equal. -/
theorem grown_texts_compare_as_same :
    (dottedCapitals (2 ^ 30)).length ≤ 2147483647 ∧
      (dottedCapitals (2 ^ 30 + 1)).length ≤ 2147483647 ∧
      compareTo.run (some (dottedCapitals (2 ^ 30)))
          [.text (some (dottedCapitals (2 ^ 30 + 1))), .boolean true] =
        .ok (some (dottedCapitals (2 ^ 30)), .int 0) ∧
      equals.run (some (dottedCapitals (2 ^ 30)))
          [.text (some (dottedCapitals (2 ^ 30 + 1))), .boolean true] =
        .ok (some (dottedCapitals (2 ^ 30)), .boolean false) := by
  have hlength (n : Nat) : (dottedCapitals n).length = n := by
    rw [dottedCapitals, String.length_ofList, List.length_replicate]
  exact ⟨(hlength _).trans_le (by omega), (hlength _).trans_le (by omega),
    run_compareTo_dottedCapitals (by omega) (by omega), run_equals_dottedCapitals (by omega)⟩

end TextOperation

end JobScript
