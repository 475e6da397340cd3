import JobScript.Execution.Text
import JobScript.Proofs.Text.Bytes
import JobScript.Proofs.Text.Occurrences

/-!
# Searches of a Text Agree

Scripts can ask where a text stands in another, from the front or from the back, and whether it
stands there at all, at the front or at the end. The answers agree with each other and with the
places at which the needle stands, whether case is ignored or not; they are also what the bytes of
both texts say.

## Architecture

- `compared`: a text as comparisons read it; `run_contains` and so on: what an operation gives
- `Answers`: the best of some positions as scripts see it, or -1
- `indexOf_answers`, `lastIndexOf_answers`: both searches
- `SearchesAgree`, `searches_agree`: all operations together
-/

namespace JobScript

open Text (Occurs Selects)

/-! ## Section 1: Operations -/

namespace TextQuery

/-- A text as comparisons read it: unset is empty, and all letters are small if case is ignored. -/
def compared (text : Option String) (ignoreCase : Bool) : List Char :=
  if ignoreCase then Text.lowerChars (text.getD "").toList else (text.getD "").toList

end TextQuery

namespace TextOperation

open TextQuery

variable (receiver needle : Option String) (start : Int32) (ignoreCase : Bool)

theorem run_contains : contains.run receiver [.text needle, .boolean ignoreCase] =
    .ok (receiver, .boolean
      (Text.contains (compared needle ignoreCase) (compared receiver ignoreCase))) := by
  cases ignoreCase <;> rfl

theorem run_startsWith : startsWith.run receiver [.text needle, .boolean ignoreCase] =
    .ok (receiver, .boolean
      ((compared needle ignoreCase).isPrefixOf (compared receiver ignoreCase))) := by
  cases ignoreCase <;> rfl

theorem run_endsWith : endsWith.run receiver [.text needle, .boolean ignoreCase] =
    .ok (receiver, .boolean
      ((compared needle ignoreCase).isSuffixOf (compared receiver ignoreCase))) := by
  cases ignoreCase <;> rfl

theorem run_equals : equals.run receiver [.text needle, .boolean ignoreCase] =
    .ok (receiver, .boolean (compared receiver ignoreCase == compared needle ignoreCase)) := by
  cases ignoreCase <;> rfl

theorem run_indexOfFrom :
    indexOfFrom.run receiver [.text needle, .int start, .boolean ignoreCase] =
      .ok (receiver, .int
        (TextQuery.indexOf (compared receiver ignoreCase) (compared needle ignoreCase) start)) := by
  cases ignoreCase <;> rfl

theorem run_indexOf : indexOf.run receiver [.text needle, .boolean ignoreCase] =
    .ok (receiver, .int
      (TextQuery.indexOf (compared receiver ignoreCase) (compared needle ignoreCase) 0)) := by
  cases ignoreCase <;> rfl

theorem run_lastIndexOfFrom :
    lastIndexOfFrom.run receiver [.text needle, .int start, .boolean ignoreCase] =
      .ok (receiver, .int
        (TextQuery.lastIndexOf (compared receiver ignoreCase) (compared needle ignoreCase)
          start)) := by
  cases ignoreCase <;> rfl

theorem run_lastIndexOf : lastIndexOf.run receiver [.text needle, .boolean ignoreCase] =
    .ok (receiver, .int
      (TextQuery.lastIndexOf (compared receiver ignoreCase) (compared needle ignoreCase)
        greatestInt)) := by
  cases ignoreCase <;> rfl

end TextOperation

/-! ## Section 2: Answers -/

namespace TextQuery

variable {s needle : List Char} {best : Set Nat → Nat → Prop} {positions : Set Nat}
  {answer : Int32}

/-- The answer of a search among positions: the best one, or -1 if there are none. -/
def Answers (best : Set Nat → Nat → Prop) (positions : Set Nat) (answer : Int32) : Prop :=
  (∃ i, best positions i ∧ answer.toInt = i) ∨ (positions = ∅ ∧ answer = -1)

theorem toInt_countToInt (n : Nat) : (countToInt n).toInt = min (n : Int) 2147483647 := by
  rw [countToInt, Int32.toInt_ofInt_of_le] <;> omega

theorem positionToInt_answers {position : Option Nat} (h : Selects best positions position)
    (hfits : ∀ i, best positions i → i ≤ 2147483647) :
    Answers best positions (positionToInt position) := by
  cases position with
  | none => exact .inr ⟨h, rfl⟩
  | some i =>
    have hi := hfits i h
    exact .inl ⟨i, h, (toInt_countToInt i).trans (min_eq_left (by omega))⟩

/-- The integer for no position is that of no other. -/
theorem positionToInt_ne_none_iff (position : Option Nat) :
    positionToInt position ≠ -1 ↔ position.isSome = true := by
  cases position with
  | none =>
    apply iff_of_false
    · exact fun h => h rfl
    · simp
  | some i =>
    refine iff_of_true ?_ rfl
    intro h
    have hnegative : (countToInt i).toInt = -1 := congrArg Int32.toInt h
    rw [toInt_countToInt] at hnegative
    omega

/-- The answer of a search from the back is a position exactly if that is the greatest one. -/
theorem Answers.toInt_eq_iff (h : Answers IsGreatest positions answer) {i : Nat} :
    answer.toInt = i ↔ IsGreatest positions i := by
  rcases h with ⟨j, hj, hanswer⟩ | ⟨rfl, rfl⟩
  · rw [hanswer, Int.natCast_inj]
    constructor
    · rintro rfl
      exact hj
    · exact hj.unique
  · have hnegative : (-1 : Int32).toInt = -1 := by decide
    apply iff_of_false
    · omega
    · exact fun hi => hi.1

theorem indexOf_answers (hlength : s.length ≤ 2147483647) (needle : List Char) (start : Int32) :
    Answers IsLeast {i : Nat | min (max start.toInt 0) (s.length : Int) ≤ i ∧ Occurs needle s i}
      (TextQuery.indexOf s needle start) := by
  have hsame : {i : Nat | min (max start.toInt 0) (s.length : Int) ≤ i ∧ Occurs needle s i} =
      {i | min start.toInt.toNat s.length ≤ i ∧ Occurs needle s i} := by
    ext i
    apply and_congr_left'
    omega
  rw [hsame]
  apply positionToInt_answers (Text.firstFrom?_selects needle s _)
  rintro i ⟨⟨-, hoccurs⟩, -⟩
  have := hoccurs.add_length_le
  omega

theorem lastIndexOf_answers (hlength : s.length ≤ 2147483647) (needle : List Char)
    (limit : Int32) :
    Answers IsGreatest {i : Nat | (i : Int) ≤ limit.toInt ∧ Occurs needle s i}
      (TextQuery.lastIndexOf s needle limit) := by
  unfold TextQuery.lastIndexOf
  split
  case isTrue hnegative =>
    -- No position is negative
    refine .inr ⟨?_, rfl⟩
    apply Set.eq_empty_of_forall_notMem
    rintro i ⟨hi, -⟩
    have := Int32.lt_iff_toInt_lt.mp hnegative
    rw [Int32.toInt_zero] at this
    omega
  case isFalse hnegative =>
    have hlimit : 0 ≤ limit.toInt := by
      rw [Int32.lt_iff_toInt_lt, Int32.toInt_zero] at hnegative
      omega
    have hsame : {i : Nat | (i : Int) ≤ limit.toInt ∧ Occurs needle s i} =
        {i | i ≤ min limit.toInt.toNat s.length ∧ Occurs needle s i} := by
      ext i
      apply and_congr_left
      intro hoccurs
      have := hoccurs.add_length_le
      omega
    rw [hsame]
    apply positionToInt_answers (Text.lastUpTo?_selects needle s _)
    rintro i ⟨⟨-, hoccurs⟩, -⟩
    have := hoccurs.add_length_le
    omega

/-- However long the text is, a position stands for a place of the needle. -/
theorem exists_position_indexOf (s needle : List Char) (start : Int32) :
    ∃ position, TextQuery.indexOf s needle start = positionToInt position ∧
      ∀ i ∈ position, Occurs needle s i := by
  refine ⟨_, rfl, ?_⟩
  intro i hi
  exact ((Text.firstFrom?_selects needle s _).of_mem hi).1.2

theorem exists_position_lastIndexOf (s needle : List Char) (limit : Int32) :
    ∃ position, TextQuery.lastIndexOf s needle limit = positionToInt position ∧
      ∀ i ∈ position, Occurs needle s i := by
  unfold TextQuery.lastIndexOf
  split
  · exact ⟨none, rfl, by simp⟩
  · refine ⟨_, rfl, ?_⟩
    intro i hi
    exact ((Text.lastUpTo?_selects needle s _).of_mem hi).1.2

/-! ## Section 3: Agreement -/

/-- How the answers to all searches of a text for a needle belong together. -/
structure SearchesAgree (s needle : List Char) (firstFrom lastUpTo : Int32 → Int32)
    (first last : Int32) (inside atFront atEnd : Bool) : Prop where
  firstFrom_least (start : Int32) : Answers IsLeast
    {i : Nat | min (max start.toInt 0) (s.length : Int) ≤ i ∧ Occurs needle s i} (firstFrom start)
  lastUpTo_greatest (limit : Int32) : Answers IsGreatest
    {i : Nat | (i : Int) ≤ limit.toInt ∧ Occurs needle s i} (lastUpTo limit)
  first_eq : first = firstFrom 0
  last_eq : last = lastUpTo greatestInt
  inside_iff_first : inside = true ↔ first ≠ -1
  first_iff_last : first ≠ -1 ↔ last ≠ -1
  atFront_iff : atFront = true ↔ lastUpTo 0 = 0
  atEnd_iff : atEnd = true ↔
    needle.length ≤ s.length ∧ last.toInt = (s.length : Int) - needle.length
  inside_iff_bytes : inside = true ↔
    Text.Utf8.write (String.ofList needle) <:+: Text.Utf8.write (String.ofList s)
  atFront_iff_bytes : atFront = true ↔
    Text.Utf8.write (String.ofList needle) <+: Text.Utf8.write (String.ofList s)
  atEnd_iff_bytes : atEnd = true ↔
    Text.Utf8.write (String.ofList needle) <:+ Text.Utf8.write (String.ofList s)

/-- From the front, every place counts as not before the start of the text. -/
theorem indexOf_ne_none_iff (s needle : List Char) :
    TextQuery.indexOf s needle 0 ≠ -1 ↔ needle <:+: s := by
  rw [TextQuery.indexOf, positionToInt_ne_none_iff,
    (Text.firstFrom?_selects needle s _).isSome_iff fun _ h => h.1, ← Text.exists_occurs_iff]
  apply exists_congr
  intro i
  apply and_iff_right_of_imp
  simp

/-- From the back, no place lies behind the greatest integer. -/
theorem lastIndexOf_ne_none_iff (hlength : s.length ≤ 2147483647) (needle : List Char) :
    TextQuery.lastIndexOf s needle greatestInt ≠ -1 ↔ needle <:+: s := by
  rw [TextQuery.lastIndexOf, if_neg (by decide), positionToInt_ne_none_iff,
    (Text.lastUpTo?_selects needle s _).isSome_iff fun _ h => h.1, ← Text.exists_occurs_iff]
  apply exists_congr
  intro i
  apply and_iff_right_of_imp
  intro hoccurs
  have hgreatest : greatestInt.toInt.toNat = 2147483647 := by decide
  have := hoccurs.add_length_le
  omega

theorem lastIndexOf_zero_iff (hlength : s.length ≤ 2147483647) (needle : List Char) :
    TextQuery.lastIndexOf s needle 0 = 0 ↔ needle <+: s := by
  rw [← Int32.toInt_inj, Int32.toInt_zero]
  refine ((lastIndexOf_answers hlength needle 0).toInt_eq_iff (i := 0)).trans ?_
  rw [← Text.occurs_zero_iff]
  constructor
  · exact fun h => h.1.2
  · intro h
    refine ⟨⟨le_rfl, h⟩, ?_⟩
    rintro i ⟨hi, -⟩
    rw [Int32.toInt_zero] at hi
    omega

/-- The last place that has room for the needle is the greatest one, if the needle stands there. -/
theorem lastIndexOf_last_iff (hlength : s.length ≤ 2147483647)
    (hroom : needle.length ≤ s.length) :
    (TextQuery.lastIndexOf s needle greatestInt).toInt = (s.length : Int) - needle.length ↔
      needle <:+ s := by
  rw [← Int.ofNat_sub hroom, (lastIndexOf_answers hlength needle greatestInt).toInt_eq_iff,
    ← Text.occurs_last_iff hroom]
  constructor
  · exact fun h => h.1.2
  · intro h
    have hgreatest : greatestInt.toInt = 2147483647 := by decide
    refine ⟨⟨by omega, h⟩, ?_⟩
    rintro i ⟨-, hoccurs⟩
    have := hoccurs.add_length_le
    omega

theorem searchesAgree (hlength : s.length ≤ 2147483647) (needle : List Char) :
    SearchesAgree s needle (TextQuery.indexOf s needle) (TextQuery.lastIndexOf s needle)
      (TextQuery.indexOf s needle 0) (TextQuery.lastIndexOf s needle greatestInt)
      (Text.contains needle s) (needle.isPrefixOf s) (needle.isSuffixOf s) where
  firstFrom_least := indexOf_answers hlength needle
  lastUpTo_greatest := lastIndexOf_answers hlength needle
  first_eq := rfl
  last_eq := rfl
  inside_iff_first := by rw [Text.contains_iff, indexOf_ne_none_iff]
  first_iff_last := by rw [indexOf_ne_none_iff, lastIndexOf_ne_none_iff hlength]
  atFront_iff := by rw [List.isPrefixOf_iff_prefix, lastIndexOf_zero_iff hlength]
  atEnd_iff := by
    rw [List.isSuffixOf_iff_suffix]
    constructor
    · intro h
      exact ⟨h.length_le, (lastIndexOf_last_iff hlength h.length_le).mpr h⟩
    · rintro ⟨hroom, h⟩
      exact (lastIndexOf_last_iff hlength hroom).mp h
  inside_iff_bytes := by simp [Text.contains_iff, Text.Utf8.write_infix_iff]
  atFront_iff_bytes := by simp [List.isPrefixOf_iff_prefix, Text.Utf8.write_prefix_iff]
  atEnd_iff_bytes := by simp [List.isSuffixOf_iff_suffix, Text.Utf8.write_suffix_iff]

end TextQuery

namespace TextOperation

open TextQuery

/-- **Searches agree**: each operation that searches a text for another one gives a result and
leaves the text as it is. Positions are the least place that is not before the start, or the
greatest one that is not behind the limit; the forms without a start are those with the start 0 and
with the greatest integer; the text has the needle inside it exactly if either form gives a
position, at its front exactly if the last place up to 0 is 0, and at its end exactly if the last
place is the one that leaves nothing behind the needle. The bytes of the two texts say the same. -/
theorem searches_agree (receiver needle : Option String) (ignoreCase : Bool)
    (hlength : (compared receiver ignoreCase).length ≤ 2147483647) :
    ∃ (firstFrom lastUpTo : Int32 → Int32) (first last : Int32) (inside atFront atEnd : Bool),
      SearchesAgree (compared receiver ignoreCase) (compared needle ignoreCase) firstFrom lastUpTo
        first last inside atFront atEnd ∧
      (∀ start, indexOfFrom.run receiver [.text needle, .int start, .boolean ignoreCase] =
        .ok (receiver, .int (firstFrom start))) ∧
      (∀ limit, lastIndexOfFrom.run receiver [.text needle, .int limit, .boolean ignoreCase] =
        .ok (receiver, .int (lastUpTo limit))) ∧
      indexOf.run receiver [.text needle, .boolean ignoreCase] = .ok (receiver, .int first) ∧
      lastIndexOf.run receiver [.text needle, .boolean ignoreCase] = .ok (receiver, .int last) ∧
      contains.run receiver [.text needle, .boolean ignoreCase] =
        .ok (receiver, .boolean inside) ∧
      startsWith.run receiver [.text needle, .boolean ignoreCase] =
        .ok (receiver, .boolean atFront) ∧
      endsWith.run receiver [.text needle, .boolean ignoreCase] =
        .ok (receiver, .boolean atEnd) := by
  refine ⟨_, _, _, _, _, _, _, searchesAgree hlength (compared needle ignoreCase), ?_, ?_, ?_⟩
  · exact fun start => run_indexOfFrom receiver needle start ignoreCase
  · exact fun limit => run_lastIndexOfFrom receiver needle limit ignoreCase
  · exact ⟨run_indexOf _ _ _, run_lastIndexOf _ _ _, run_contains _ _ _, run_startsWith _ _ _,
      run_endsWith _ _ _⟩

/-- In small letters, the needle stands in two places that overlap; the second one is the end. -/
theorem last_of_overlapping_places :
    (compared (some "AbABa") true).length ≤ 2147483647 ∧
      ∃ last, lastIndexOf.run (some "AbABa") [.text (some "aBa"), .boolean true] =
          .ok (some "AbABa", .int last) ∧ last.toInt = 2 := by
  have hlength : (compared (some "AbABa") true).length ≤ 2147483647 := by decide +kernel
  refine ⟨hlength, ?_⟩
  obtain ⟨_, _, _, last, _, _, atEnd, hagree, -, -, -, hlast, -, -, hend⟩ :=
    searches_agree (some "AbABa") (some "aBa") true hlength
  refine ⟨last, hlast, ?_⟩
  have hatEnd : atEnd = true := by
    rw [run_endsWith] at hend
    obtain rfl : _ = atEnd := by simpa [Result.boolean] using hend
    decide +kernel
  rw [(hagree.atEnd_iff.mp hatEnd).2]
  decide +kernel

end TextOperation

end JobScript
