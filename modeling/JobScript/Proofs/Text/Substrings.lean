import JobScript.Proofs.Text.Searches

/-!
# Parts of a Text

A part of a text is what stands between two of its positions, the beginning and the end included.
Positions outside the text are reported, of two of them the first; so is an end that lies before the
beginning. A needle that was found is the part that begins at its position and is as long as it.

## Architecture

- `run_substringFrom`, `run_substring`, `run_length`: the operations as positions decide them
- `run_substring_of_le`: two positions in order; `run_substring_of_not_le`: what is reported else
- `exists_position_indexOf`, `run_substring_found`: a part that was searched for
- `exists_slices`, `substring_slices`: what stands before, between and behind two positions
-/

namespace JobScript.TextOperation

open TextQuery
open Text (Occurs)

variable {receiver : Option String} {first last : Int32} {i j : Nat}

/-! ## Section 1: Positions -/

theorem position_of_le {operation : String} {length : Nat} (hfirst : first.toInt = i)
    (hi : i ≤ length) : position operation first length = .ok i := by
  unfold position
  rw [hfirst, Int.toNat_natCast, if_pos]
  omega

theorem position_of_not_le {operation : String} {length : Nat}
    (h : ¬ (0 ≤ first.toInt ∧ first.toInt ≤ length)) :
    position operation first length = .error (.outOfRange operation first.toInt length) :=
  if_neg h

theorem run_substringFrom (receiver : Option String) (index : Int32) :
    substringFrom.run receiver [.int index] =
      (position substringFrom.signature.name index (compared receiver false).length).map
        fun start => (receiver, .text (String.ofList ((compared receiver false).drop start))) := by
  have hlength : (compared receiver false).length = (receiver.getD "").length :=
    String.length_toList
  change (do
    let start ← position substringFrom.signature.name index (receiver.getD "").length
    return (receiver, Result.text (String.ofList ((receiver.getD "").toList.drop start)))) = _
  rw [hlength]
  cases position substringFrom.signature.name index (receiver.getD "").length <;> rfl

theorem run_substringFrom_of_le {receiver : Option String} {index : Int32} {i : Nat}
    (hindex : index.toInt = i) (hi : i ≤ (compared receiver false).length) :
    substringFrom.run receiver [.int index] =
      .ok (receiver, .text (String.ofList ((compared receiver false).drop i))) := by
  rw [run_substringFrom, position_of_le hindex hi]
  rfl

theorem run_length (receiver : Option String) : length.run receiver [] =
    .ok (receiver, .int (countToInt (compared receiver false).length)) := by
  change Except.ok (receiver, Result.int (countToInt (receiver.getD "").length)) = _
  rw [← String.length_toList]
  rfl

/-- The first position is looked at before the second one. -/
theorem run_substring (receiver : Option String) (first last : Int32) :
    substring.run receiver [.int first, .int last] = (do
      let start ← position substring.signature.name first (compared receiver false).length
      let stop ← position substring.signature.name last (compared receiver false).length
      if start ≤ stop then
        .ok (receiver, .text
          (String.ofList (((compared receiver false).drop start).take (stop - start))))
      else .error (.outOfRange substring.signature.name last.toInt
        (compared receiver false).length)) := by
  have hlength : (compared receiver false).length = (receiver.getD "").length :=
    String.length_toList
  rw [hlength]
  rfl

/-! ## Section 2: Parts -/

theorem exists_positions {length : Nat}
    (h : 0 ≤ first.toInt ∧ first.toInt ≤ last.toInt ∧ last.toInt ≤ length) :
    ∃ i j : Nat, first.toInt = i ∧ last.toInt = j ∧ i ≤ j ∧ j ≤ length := by
  obtain ⟨hfirst, hij, hlast⟩ := h
  refine ⟨first.toInt.toNat, last.toInt.toNat, ?_⟩
  omega

theorem run_substring_of_le (hfirst : first.toInt = i) (hlast : last.toInt = j) (hij : i ≤ j)
    (hj : j ≤ (compared receiver false).length) :
    substring.run receiver [.int first, .int last] =
      .ok (receiver, .text (String.ofList (((compared receiver false).drop i).take (j - i)))) := by
  rw [run_substring, position_of_le hfirst (hij.trans hj), position_of_le hlast hj]
  exact if_pos hij

/-- The index that is reported when two indices do not stand for positions in order. -/
def misplaced (first last : Int32) (length : Nat) : Int :=
  if first.toInt < 0 ∨ length < first.toInt then first.toInt else last.toInt

theorem run_substring_of_not_le
    (h : ¬ (0 ≤ first.toInt ∧ first.toInt ≤ last.toInt ∧
      last.toInt ≤ (compared receiver false).length)) :
    substring.run receiver [.int first, .int last] =
      .error (.outOfRange "substring" (misplaced first last (compared receiver false).length)
        (compared receiver false).length) := by
  rw [run_substring, misplaced]
  by_cases hfirst : 0 ≤ first.toInt ∧ first.toInt ≤ (compared receiver false).length
  · have hstart : first.toInt = first.toInt.toNat := by omega
    rw [position_of_le hstart (by omega), if_neg (by omega)]
    by_cases hlast : 0 ≤ last.toInt ∧ last.toInt ≤ (compared receiver false).length
    · have hstop : last.toInt = last.toInt.toNat := by omega
      -- Both are positions of the text, so the end lies before the beginning
      rw [position_of_le hstop (by omega)]
      exact if_neg (by omega)
    · rw [position_of_not_le hlast]
      rfl
  · rw [position_of_not_le hfirst, if_pos (by omega)]
    rfl

/-- A part that ends with the text has no need of an end. -/
theorem run_substringFrom_eq (hlast : last.toInt = (compared receiver false).length) :
    substringFrom.run receiver [.int first] = substring.run receiver [.int first, .int last] := by
  by_cases hfirst : 0 ≤ first.toInt ∧ first.toInt ≤ (compared receiver false).length
  · have hstart : first.toInt = first.toInt.toNat := by omega
    have hi : first.toInt.toNat ≤ (compared receiver false).length := by omega
    rw [run_substringFrom_of_le hstart hi, run_substring_of_le hstart hlast hi le_rfl,
      List.take_of_length_le (by rw [List.length_drop])]
  · rw [run_substringFrom, run_substring, position_of_not_le hfirst, position_of_not_le hfirst]
    rfl

/-- Behind a place of the needle, there is room for all of it. -/
theorem run_substring_found {needle : Option String} {start found : Int32}
    (hfound : TextQuery.indexOf (compared receiver false) (compared needle false) start = found)
    (hposition : 0 ≤ found) :
    found.toInt + (compared needle false).length ≤ (compared receiver false).length ∧
      ∀ behind : Int32, behind.toInt = found.toInt + (compared needle false).length →
        substring.run receiver [.int found, .int behind] =
          .ok (receiver, .text (needle.getD "")) := by
  obtain ⟨place, hplace, hoccurs⟩ :=
    exists_position_indexOf (compared receiver false) (compared needle false) start
  rw [hplace] at hfound
  subst hfound
  cases place with
  | none => exact absurd hposition (by decide)
  | some i =>
    have hstands := Text.occurs_iff.mp (hoccurs i rfl)
    have hroom := (hoccurs i rfl).add_length_le
    have hindex : (positionToInt (some i)).toInt = min (i : Int) 2147483647 := toInt_countToInt i
    refine ⟨by omega, ?_⟩
    intro behind hbehind
    have hbound : behind.toInt < 2 ^ 31 := behind.toInt_lt
    have hpart : compared needle false <+: (compared receiver false).drop (min i 2147483647) := by
      by_cases hfits : i ≤ 2147483647
      · rw [min_eq_left hfits]
        exact hstands.2
      · -- Nothing fits behind the greatest integer, so the needle is empty
        have hempty : (compared needle false).length = 0 := by omega
        rw [List.eq_nil_of_length_eq_zero hempty]
        exact List.nil_prefix
    rw [run_substring_of_le (i := min i 2147483647)
        (j := min i 2147483647 + (compared needle false).length) (by omega) (by omega)
        (Nat.le_add_right _ _) (by omega),
      Nat.add_sub_cancel_left, ← List.prefix_iff_eq_take.mp hpart]
    simp [compared]

/-! ## Section 3: Slices -/

/-- A text is what stands before, between and behind two positions in order. -/
theorem exists_slices (hfirst : first.toInt = i) (hlast : last.toInt = j) (hij : i ≤ j)
    (hj : j ≤ (compared receiver false).length) :
    ∃ front middle rest,
      substring.run receiver [.int 0, .int first] = .ok (receiver, .text front) ∧
      substring.run receiver [.int first, .int last] = .ok (receiver, .text middle) ∧
      substringFrom.run receiver [.int last] = .ok (receiver, .text rest) ∧
      front ++ middle ++ rest = receiver.getD "" ∧ middle.length = j - i := by
  refine ⟨_, _, _, run_substring_of_le Int32.toInt_zero hfirst (Nat.zero_le i) (hij.trans hj),
    run_substring_of_le hfirst hlast hij hj, run_substringFrom_of_le hlast hj, ?_, ?_⟩
  · apply String.toList_inj.mp
    have hmiddle : ((compared receiver false).drop i).drop (j - i) =
        (compared receiver false).drop j := by
      rw [List.drop_drop, Nat.add_sub_cancel' hij]
    calc (String.ofList (((compared receiver false).drop 0).take (i - 0)) ++
            String.ofList (((compared receiver false).drop i).take (j - i)) ++
            String.ofList ((compared receiver false).drop j)).toList
        _ = (compared receiver false).take i ++
            (((compared receiver false).drop i).take (j - i) ++
              ((compared receiver false).drop i).drop (j - i)) := by
          simp [hmiddle]
        _ = (receiver.getD "").toList := by
          rw [List.take_append_drop, List.take_append_drop]
          rfl
  · rw [String.length_ofList, List.length_take_of_le]
    rw [List.length_drop]
    omega

/-- **Parts of a text are exact**: two indices give a part exactly if they are positions of the text
in order. It is as long as they are apart, and between what stands before and behind it makes up
the text. Else the first index is reported if it is no position, or the second one. Without an end,
the part is that up to the end of the text. And where a search has found a needle, the part that is
as long as the needle is the needle. -/
theorem substring_slices (receiver : Option String) (first last : Int32) :
    ((∃ middle, substring.run receiver [.int first, .int last] = .ok (receiver, .text middle)) ↔
      0 ≤ first.toInt ∧ first.toInt ≤ last.toInt ∧ last.toInt ≤ (receiver.getD "").length) ∧
    (∀ middle, substring.run receiver [.int first, .int last] = .ok (receiver, .text middle) →
      (middle.length : Int) = last.toInt - first.toInt ∧
      ∃ front rest, substring.run receiver [.int 0, .int first] = .ok (receiver, .text front) ∧
        substringFrom.run receiver [.int last] = .ok (receiver, .text rest) ∧
        front ++ middle ++ rest = receiver.getD "") ∧
    (¬ (0 ≤ first.toInt ∧ first.toInt ≤ last.toInt ∧ last.toInt ≤ (receiver.getD "").length) →
      substring.run receiver [.int first, .int last] =
        .error (.outOfRange "substring" (misplaced first last (receiver.getD "").length)
          (receiver.getD "").length)) ∧
    (last.toInt = (receiver.getD "").length →
      substringFrom.run receiver [.int first] =
        substring.run receiver [.int first, .int last]) ∧
    ∀ needle start found,
      indexOfFrom.run receiver [.text needle, .int start, .boolean false] =
        .ok (receiver, .int found) → 0 ≤ found →
      found.toInt + (needle.getD "").length ≤ (receiver.getD "").length ∧
        ∀ behind : Int32, behind.toInt = found.toInt + (needle.getD "").length →
          substring.run receiver [.int found, .int behind] =
            .ok (receiver, .text (needle.getD "")) := by
  have hlength (text : Option String) : (text.getD "").length = (compared text false).length :=
    String.length_toList.symm
  simp only [hlength]
  refine ⟨⟨?inside, ?success⟩, ?exact, run_substring_of_not_le, run_substringFrom_eq, ?found⟩
  case inside =>
    rintro ⟨middle, hmiddle⟩
    by_contra hout
    rw [run_substring_of_not_le hout] at hmiddle
    cases hmiddle
  case success =>
    intro hin
    obtain ⟨i, j, hi, hj, hij, hlast⟩ := exists_positions hin
    exact ⟨_, run_substring_of_le hi hj hij hlast⟩
  case exact =>
    intro middle hmiddle
    by_cases hin : 0 ≤ first.toInt ∧ first.toInt ≤ last.toInt ∧
        last.toInt ≤ (compared receiver false).length
    · obtain ⟨i, j, hi, hj, hij, hlast⟩ := exists_positions hin
      obtain ⟨front, middle', rest, hfront, hmiddle', hrest, hwhole, hcount⟩ :=
        exists_slices hi hj hij hlast
      obtain rfl : middle' = middle := by
        simpa [Result.text] using hmiddle'.symm.trans hmiddle
      exact ⟨by omega, front, rest, hfront, hrest, hwhole⟩
    · rw [run_substring_of_not_le hin] at hmiddle
      cases hmiddle
  case found =>
    intro needle start found hfound hposition
    rw [run_indexOfFrom] at hfound
    exact run_substring_found (by simpa [Result.int] using hfound) hposition

/-- Two letters that take more than one byte each are cut out where they were found. -/
theorem found_letters_cut_out :
    indexOfFrom.run (some "größer") [.text (some "öß"), .int 1, .boolean false] =
        .ok (some "größer", .int 2) ∧
      (0 : Int32) ≤ 2 ∧
      substring.run (some "größer") [.int 2, .int 4] = .ok (some "größer", .text "öß") := by
  have hfound : indexOfFrom.run (some "größer") [.text (some "öß"), .int 1, .boolean false] =
      .ok (some "größer", .int 2) := by
    have hindex : TextQuery.indexOf (compared (some "größer") false) (compared (some "öß") false)
        1 = 2 := by decide +kernel
    rw [run_indexOfFrom, hindex]
  have hpositive : (0 : Int32) ≤ 2 := by decide
  obtain ⟨-, -, -, -, hneedle⟩ := substring_slices (some "größer") 2 4
  exact ⟨hfound, hpositive, (hneedle (some "öß") 1 2 hfound hpositive).2 4 (by decide +kernel)⟩

end JobScript.TextOperation
