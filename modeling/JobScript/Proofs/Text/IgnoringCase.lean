import JobScript.Proofs.Text.SmallForms
import JobScript.Proofs.Text.Substrings

/-!
# Comparisons That Ignore Case

Ignoring case means comparing small letters of whole texts. A part of a text and its small letters
then differ in two ways. Positions count small letters, of which a dotted capital i has two. And a
capital sigma may end a word in a part but not in the whole text, or the other way: then the small
letters of the part are not found where the part stands.

## Architecture

- `searchesIgnoringCase`: the searches for a position; `exists_position_of_search`
- `found_position_in_receiver`: positions among small letters as positions in the text
- `MatchesKept`, `matches_kept_ignoring_case`: which matches remain when case is ignored
-/

namespace JobScript.TextOperation

open TextQuery
open Text (Occurs KeepsSigmas KeepsSigmasAt capitalSigma dottedCapitalI lowerChars)

theorem compared_true (text : Option String) :
    compared text true = lowerChars (compared text false) := rfl

/-! ## Section 1: Positions -/

/-- The searches for a position that ignore case. -/
def searchesIgnoringCase (needle : Option String) (start : Int32) :
    List (TextOperation × List Value) :=
  [(.indexOf, [.text needle, .boolean true]),
    (.indexOfFrom, [.text needle, .int start, .boolean true]),
    (.lastIndexOf, [.text needle, .boolean true]),
    (.lastIndexOfFrom, [.text needle, .int start, .boolean true])]

/-- What every search finds is a place of the needle among the small letters. -/
theorem exists_position_of_search (receiver : Option String) {needle : Option String}
    {start : Int32} {call : TextOperation × List Value}
    (hcall : call ∈ searchesIgnoringCase needle start) :
    ∃ position, call.1.run receiver call.2 = .ok (receiver, .int (positionToInt position)) ∧
      ∀ i ∈ position, Occurs (compared needle true) (compared receiver true) i := by
  have hfirst := exists_position_indexOf (compared receiver true) (compared needle true)
  have hlast := exists_position_lastIndexOf (compared receiver true) (compared needle true)
  simp only [searchesIgnoringCase, List.mem_cons, List.not_mem_nil, or_false] at hcall
  rcases hcall with rfl | rfl | rfl | rfl
  · obtain ⟨position, hposition, hoccurs⟩ := hfirst 0
    exact ⟨position, by rw [run_indexOf, hposition], hoccurs⟩
  · obtain ⟨position, hposition, hoccurs⟩ := hfirst start
    exact ⟨position, by rw [run_indexOfFrom, hposition], hoccurs⟩
  · obtain ⟨position, hposition, hoccurs⟩ := hlast greatestInt
    exact ⟨position, by rw [run_lastIndexOf, hposition], hoccurs⟩
  · obtain ⟨position, hposition, hoccurs⟩ := hlast start
    exact ⟨position, by rw [run_lastIndexOfFrom, hposition], hoccurs⟩

/-- Without a dotted capital i before it, a position among the small letters is one in the text. -/
theorem le_length_of_plain {s : List Char} {i : Nat} (hi : i ≤ (lowerChars s).length)
    (hplain : dottedCapitalI ∉ s.take i) : i ≤ s.length := by
  by_contra hbeyond
  -- Then the whole text is plain, and has as many small letters as letters
  rw [List.take_of_length_le (by omega)] at hplain
  rw [Text.length_lowerChars, List.count_eq_zero.mpr hplain] at hi
  omega

/-- As many small letters as given, and another one behind them. -/
def asBeforeB (n : Nat) : String :=
  String.ofList (List.replicate n 'a' ++ ['b'])

theorem compared_asBeforeB (n : Nat) (ignoreCase : Bool) :
    compared (some (asBeforeB n)) ignoreCase = List.replicate n 'a' ++ ['b'] := by
  have hself : lowerChars (List.replicate n 'a' ++ ['b']) = List.replicate n 'a' ++ ['b'] := by
    apply Text.lowerChars_eq_self
    intro c hc
    have hletter : c = 'a' ∨ c = 'b' := by
      rw [List.mem_append, List.mem_replicate, List.mem_singleton] at hc
      exact hc.imp_left And.right
    rcases hletter with rfl | rfl <;> decide
  cases ignoreCase <;> simp [compared, asBeforeB, hself]

theorem run_indexOf_asBeforeB (n : Nat) :
    indexOf.run (some (asBeforeB n)) [.text (some "b"), .boolean true] =
      .ok (some (asBeforeB n), .int (countToInt n)) := by
  have hneedle : compared (some "b") true = ['b'] := by decide +kernel
  rw [run_indexOf, compared_asBeforeB, hneedle]
  obtain ⟨position, hposition, hoccurs⟩ :=
    exists_position_indexOf (List.replicate n 'a' ++ ['b']) ['b'] 0
  have hfound : TextQuery.indexOf (List.replicate n 'a' ++ ['b']) ['b'] 0 ≠ -1 := by
    rw [indexOf_ne_none_iff]
    exact (List.suffix_append _ _).isInfix
  rw [hposition, positionToInt_ne_none_iff, Option.isSome_iff_exists] at hfound
  obtain ⟨i, rfl⟩ := hfound
  rw [hposition, Text.eq_of_occurs_behind_replicate (by decide) (hoccurs i rfl)]
  rfl

theorem run_substringFrom_asBeforeB {n i : Nat} {index : Int32} (hindex : index.toInt = i)
    (hi : i ≤ n) : substringFrom.run (some (asBeforeB n)) [.int index] =
      .ok (some (asBeforeB n), .text (asBeforeB (n - i))) := by
  have hlength : i ≤ (compared (some (asBeforeB n)) false).length := by
    rw [compared_asBeforeB, List.length_append, List.length_replicate]
    omega
  rw [run_substringFrom_of_le hindex hlength, compared_asBeforeB,
    List.drop_append_of_le_length (by simpa), List.drop_replicate]
  rfl

/-- **Positions found when case is ignored**: every search gives a result; if that is a position, it
counts small letters of the text, from which small letters of the needle follow. Without a dotted
capital i before it, it is a position in the text too; and what follows there has small letters
that begin with those of the needle, exactly if it keeps its sigmas as far as these reach. -/
theorem found_position_in_receiver (receiver needle : Option String) (start : Int32) :
    ∀ call ∈ searchesIgnoringCase needle start, ∃ answer : Int32,
      call.1.run receiver call.2 = .ok (receiver, .int answer) ∧
      (0 ≤ answer → ∃ position, answer = countToInt position ∧
        position ≤ (compared receiver true).length ∧
        compared needle true <+: (compared receiver true).drop position ∧
        (position ≤ 2147483647 → dottedCapitalI ∉ (compared receiver false).take position →
          (∃ count, length.run receiver [] = .ok (receiver, .int count) ∧ answer ≤ count) ∧
          ∃ rest, substringFrom.run receiver [.int answer] = .ok (receiver, .text rest) ∧
            (compared needle true <+: compared (some rest) true ↔
              KeepsSigmas ((compared receiver false).take position) rest.toList []
                (compared needle true).length))) := by
  intro call hcall
  obtain ⟨found, hrun, hoccurs⟩ := exists_position_of_search receiver hcall
  refine ⟨positionToInt found, hrun, ?_⟩
  intro hanswer
  cases found with
  | none => exact absurd hanswer (by decide)
  | some position =>
    obtain ⟨hwithin, hstands⟩ := Text.occurs_iff.mp (hoccurs position rfl)
    refine ⟨position, rfl, hwithin, hstands, ?_⟩
    intro hfits hplain
    have hreceiver : position ≤ (compared receiver false).length :=
      le_length_of_plain hwithin hplain
    have hindex : (positionToInt (some position)).toInt = position := by
      refine (toInt_countToInt position).trans ?_
      omega
    refine ⟨⟨_, run_length receiver, ?_⟩, ⟨_, run_substringFrom_of_le hindex hreceiver, ?_⟩⟩
    · rw [Int32.le_iff_toInt_le, hindex, toInt_countToInt]
      omega
    · have hlength : ((compared receiver false).take position).length = position :=
        List.length_take_of_le hreceiver
      have hbehind : compared needle true <+:
          (lowerChars ((compared receiver false).take position ++
            (compared receiver false).drop position)).drop
              ((compared receiver false).take position).length := by
        rw [List.take_append_drop, hlength]
        exact hstands
      simpa [compared] using Text.prefix_lowerChars_rest_iff hplain hbehind

/-- A sigma that is a word of its own is found behind one that ends a word. -/
theorem single_sigma_found :
    (indexOf, [.text (some "Σ"), .boolean true]) ∈ searchesIgnoringCase (some "Σ") 0 ∧
      KeepsSigmas ['Ο', 'Σ', ' '] ['Σ'] [] 1 := by
  have hcall : (indexOf, [.text (some "Σ"), .boolean true]) ∈
      searchesIgnoringCase (some "Σ") 0 := List.mem_cons_self
  refine ⟨hcall, ?_⟩
  obtain ⟨answer, hrun, hfound⟩ := found_position_in_receiver (some "ΟΣ Σ") (some "Σ") 0 _ hcall
  have hanswer : answer = 3 := by
    rw [run_indexOf] at hrun
    obtain rfl : _ = answer := by simpa [Result.int] using hrun
    decide +kernel
  obtain ⟨position, hposition, -, -, hsame⟩ := hfound (by rw [hanswer]; decide)
  obtain rfl : position = 3 := by
    have hthree : (countToInt position).toInt = 3 := by
      rw [← hposition, hanswer]
      decide
    rw [toInt_countToInt] at hthree
    omega
  obtain ⟨-, rest, hrest, hkeeps⟩ := hsame (by decide) (by decide +kernel)
  rw [hanswer, run_substringFrom_of_le (i := 3) (by decide) (by decide +kernel)] at hrest
  obtain rfl : _ = rest := by simpa [Result.text] using hrest
  have hfront : (compared (some "ΟΣ Σ") false).take 3 = ['Ο', 'Σ', ' '] := by decide +kernel
  have hbehind : (compared (some "ΟΣ Σ") false).drop 3 = ['Σ'] := by decide +kernel
  have hreach : (compared (some "Σ") true).length = 1 := by decide +kernel
  have hkept := hkeeps.mp (by decide +kernel)
  rwa [hfront, hreach, String.toList_ofList, hbehind] at hkept

/-- A position may lie beyond the text, if there is a dotted capital i before it. What is found may
be no part of what stands at the position alone: there a sigma may end no word, although it does in
the text. And a position that no integer is great enough for is taken for a lesser one. -/
theorem position_beyond_receiver :
    (lastIndexOf.run (some "İİ") [.text (some ""), .boolean true] = .ok (some "İİ", .int 4) ∧
      length.run (some "İİ") [] = .ok (some "İİ", .int 2) ∧
      substringFrom.run (some "İİ") [.int 4] = .error (.outOfRange "substring" 4 2)) ∧
    (indexOf.run (some "aΣ") [.text (some "ς"), .boolean true] = .ok (some "aΣ", .int 1) ∧
      substringFrom.run (some "aΣ") [.int 1] = .ok (some "aΣ", .text "Σ") ∧
      ¬ compared (some "ς") true <+: compared (some "Σ") true) ∧
    (indexOf.run (some (asBeforeB 2147483648)) [.text (some "b"), .boolean true] =
        .ok (some (asBeforeB 2147483648), .int 2147483647) ∧
      substringFrom.run (some (asBeforeB 2147483648)) [.int 2147483647] =
        .ok (some (asBeforeB 2147483648), .text (asBeforeB 1)) ∧
      ¬ compared (some "b") true <+: compared (some (asBeforeB 1)) true) := by
  refine ⟨⟨?_, ?_, ?_⟩, ⟨?_, ?_, ?_⟩, ?_, ?_, ?_⟩
  · have hlast : TextQuery.lastIndexOf (compared (some "İİ") true) (compared (some "") true)
        greatestInt = 4 := by decide +kernel
    rw [run_lastIndexOf, hlast]
  · have hlength : (compared (some "İİ") false).length = 2 := by decide +kernel
    rw [run_length, hlength]
    rfl
  · have hlength : (compared (some "İİ") false).length = 2 := by decide +kernel
    rw [run_substringFrom, hlength]
    rfl
  · have hfirst : TextQuery.indexOf (compared (some "aΣ") true) (compared (some "ς") true) 0
        = 1 := by decide +kernel
    rw [run_indexOf, hfirst]
  · have hrest : String.ofList ((compared (some "aΣ") false).drop 1) = "Σ" := by decide +kernel
    rw [run_substringFrom_of_le (i := 1) (by decide) (by decide +kernel), hrest]
  · decide +kernel
  · exact run_indexOf_asBeforeB 2147483648
  · exact run_substringFrom_asBeforeB (i := 2147483647) (by decide) (by decide)
  · decide +kernel

/-! ## Section 2: Matches -/

/-- How the matches of a needle in a text that ignore case follow from those that do not. Each
answer depends on whether case is ignored. -/
structure MatchesKept (s needle : List Char) (same atFront atEnd inside : Bool → Bool)
    (first : Bool → Int32) : Prop where
  same_kept : same false = true → same true = true
  atFront_kept_iff : atFront false = true → (atFront true = true ↔ KeepsSigmasAt needle s 0)
  atEnd_kept_iff : atEnd false = true →
    (atEnd true = true ↔ KeepsSigmasAt needle s (s.length - needle.length))
  inside_iff : inside false = true ↔ ∃ i, Occurs needle s i
  first_iff : first false ≠ -1 ↔ ∃ i, Occurs needle s i
  inside_kept : (∃ i, KeepsSigmasAt needle s i) → inside true = true
  first_kept : (∃ i, KeepsSigmasAt needle s i) → first true ≠ -1
  plain_kept : capitalSigma ∉ needle → ∀ i, Occurs needle s i → KeepsSigmasAt needle s i

theorem matchesKept (receiver needle : Option String) :
    MatchesKept (compared receiver false) (compared needle false)
      (fun ignoreCase => compared receiver ignoreCase == compared needle ignoreCase)
      (fun ignoreCase => (compared needle ignoreCase).isPrefixOf (compared receiver ignoreCase))
      (fun ignoreCase => (compared needle ignoreCase).isSuffixOf (compared receiver ignoreCase))
      (fun ignoreCase => Text.contains (compared needle ignoreCase) (compared receiver ignoreCase))
      (fun ignoreCase =>
        TextQuery.indexOf (compared receiver ignoreCase) (compared needle ignoreCase) 0) where
  same_kept := by
    simp only [beq_iff_eq, compared_true]
    exact congrArg lowerChars
  atFront_kept_iff := by
    simp only [List.isPrefixOf_iff_prefix, compared_true]
    exact Text.lowerChars_prefix_iff
  atEnd_kept_iff := by
    simp only [List.isSuffixOf_iff_suffix, compared_true]
    exact Text.lowerChars_suffix_iff
  inside_iff := by rw [Text.contains_iff, Text.exists_occurs_iff]
  first_iff := by rw [indexOf_ne_none_iff, Text.exists_occurs_iff]
  inside_kept := by
    rw [Text.contains_iff, compared_true, compared_true]
    exact Text.lowerChars_infix
  first_kept := by
    rw [indexOf_ne_none_iff, compared_true, compared_true]
    exact Text.lowerChars_infix
  plain_kept := fun hplain _ hoccurs => hoccurs.keepsSigmasAt hplain

/-- **Matches kept when case is ignored**: each comparison gives a result with and without case, and
equal texts stay equal. What stands at the front or at the end of a text still does exactly if it
keeps its sigmas there. What stands anywhere in a text is still found if it keeps its sigmas in one
of the places. A needle without capital sigmas keeps them everywhere. -/
theorem matches_kept_ignoring_case (receiver needle : Option String) :
    ∃ (same atFront atEnd inside : Bool → Bool) (first : Bool → Int32),
      MatchesKept (compared receiver false) (compared needle false) same atFront atEnd inside
        first ∧
      ∀ ignoreCase,
        equals.run receiver [.text needle, .boolean ignoreCase] =
          .ok (receiver, .boolean (same ignoreCase)) ∧
        startsWith.run receiver [.text needle, .boolean ignoreCase] =
          .ok (receiver, .boolean (atFront ignoreCase)) ∧
        endsWith.run receiver [.text needle, .boolean ignoreCase] =
          .ok (receiver, .boolean (atEnd ignoreCase)) ∧
        contains.run receiver [.text needle, .boolean ignoreCase] =
          .ok (receiver, .boolean (inside ignoreCase)) ∧
        indexOf.run receiver [.text needle, .boolean ignoreCase] =
          .ok (receiver, .int (first ignoreCase)) := by
  refine ⟨_, _, _, _, _, matchesKept receiver needle, ?_⟩
  intro ignoreCase
  exact ⟨run_equals _ _ _, run_startsWith _ _ _, run_endsWith _ _ _, run_contains _ _ _,
    run_indexOf _ _ _⟩

/-- A sigma that ends a word in the needle, but not in the text, hides the needle; so does one that
ends a word in the text, but not in the needle. -/
theorem matches_lost_at_sigma :
    (contains.run (some "ΑΣΑ") [.text (some "ΑΣ"), .boolean false] =
        .ok (some "ΑΣΑ", .boolean true) ∧
      contains.run (some "ΑΣΑ") [.text (some "ΑΣ"), .boolean true] =
        .ok (some "ΑΣΑ", .boolean false)) ∧
    (startsWith.run (some "ΑΣΑ") [.text (some "ΑΣ"), .boolean false] =
        .ok (some "ΑΣΑ", .boolean true) ∧
      startsWith.run (some "ΑΣΑ") [.text (some "ΑΣ"), .boolean true] =
        .ok (some "ΑΣΑ", .boolean false)) ∧
    (indexOf.run (some "ΑΣΑ") [.text (some "ΑΣ"), .boolean false] = .ok (some "ΑΣΑ", .int 0) ∧
      indexOf.run (some "ΑΣΑ") [.text (some "ΑΣ"), .boolean true] = .ok (some "ΑΣΑ", .int (-1))) ∧
    (endsWith.run (some "ΑΣ") [.text (some "Σ"), .boolean false] =
        .ok (some "ΑΣ", .boolean true) ∧
      endsWith.run (some "ΑΣ") [.text (some "Σ"), .boolean true] =
        .ok (some "ΑΣ", .boolean false)) := by
  have hinside : ∀ ignoreCase, Text.contains (compared (some "ΑΣ") ignoreCase)
      (compared (some "ΑΣΑ") ignoreCase) = !ignoreCase := by decide +kernel
  have hfront : ∀ ignoreCase, (compared (some "ΑΣ") ignoreCase).isPrefixOf
      (compared (some "ΑΣΑ") ignoreCase) = !ignoreCase := by decide +kernel
  have hfirst : ∀ ignoreCase, TextQuery.indexOf (compared (some "ΑΣΑ") ignoreCase)
      (compared (some "ΑΣ") ignoreCase) 0 = if ignoreCase then -1 else 0 := by decide +kernel
  have hend : ∀ ignoreCase, (compared (some "Σ") ignoreCase).isSuffixOf
      (compared (some "ΑΣ") ignoreCase) = !ignoreCase := by decide +kernel
  simp [run_contains, run_startsWith, run_indexOf, run_endsWith, hinside, hfront, hfirst, hend]

end JobScript.TextOperation
