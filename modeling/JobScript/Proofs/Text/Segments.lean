import JobScript.Proofs.Text.Occurrences

/-!
# Segments of a Text

A text that is cut at a delimiter begins with what stands before the first place of the delimiter,
and goes on with the segments of what stands behind it; a text without the delimiter stays whole.
All else follows from this: put together with the delimiter, the segments are the text again, the
delimiter stands in none of them, and there is one more of them than there are cuts.

## Architecture

- `segments_of_not_inside`, `segments_of_first`: a text that stays whole, and one that is cut
- `segments_induction`: what follows from the two
- `intercalate_segments`, `not_infix_of_mem_segments`: nothing is lost, nothing is left uncut
- `InTurn`: the places of the cuts; `length_segments`
- `segments_of_not_mem`, `segments_append_cons`: cuts at one character
-/

namespace JobScript.Text

variable {delimiter front rest s segment : List Char} {c : Char}

/-! ## Section 1: The first cut -/

theorem segmentsAfter_eq_drop (delimiter : List Char) (skipped : Nat) (s : List Char) :
    segmentsAfter delimiter skipped s = segmentsAfter delimiter 0 (s.drop skipped) := by
  induction s generalizing skipped with
  | nil => simp [segmentsAfter]
  | cons c s ih =>
    cases skipped with
    | zero => rfl
    | succ skipped => rw [segmentsAfter, ih, List.drop_succ_cons]

theorem segments_of_ne_nil (hdelimiter : delimiter ≠ []) (s : List Char) :
    segments delimiter s = segmentsAfter delimiter 0 s := by
  rw [segments, if_neg (by simpa using hdelimiter)]

theorem segments_append_self (hdelimiter : delimiter ≠ []) (rest : List Char) :
    segments delimiter (delimiter ++ rest) = [] :: segments delimiter rest := by
  rw [segments_of_ne_nil hdelimiter, segments_of_ne_nil hdelimiter]
  obtain ⟨c, others, rfl⟩ := List.exists_cons_of_ne_nil hdelimiter
  have hfront : (c :: others).isPrefixOf (c :: (others ++ rest)) = true := by
    rw [List.isPrefixOf_iff_prefix]
    exact List.prefix_append (c :: others) rest
  rw [List.cons_append, segmentsAfter, if_pos hfront, segmentsAfter_eq_drop]
  simp

theorem segments_cons_of_not_front (hdelimiter : delimiter ≠ [])
    (hfront : ¬ delimiter <+: c :: s) :
    segments delimiter (c :: s) = consFirst c (segments delimiter s) := by
  rw [← List.isPrefixOf_iff_prefix] at hfront
  rw [segments_of_ne_nil hdelimiter, segments_of_ne_nil hdelimiter, segmentsAfter, if_neg hfront]

/-- A text without the delimiter is its own only segment. -/
theorem segments_of_not_inside (hdelimiter : delimiter ≠ []) (hnot : ¬ delimiter <:+: s) :
    segments delimiter s = [s] := by
  induction s with
  | nil => rw [segments_of_ne_nil hdelimiter, segmentsAfter]
  | cons c s ih =>
    rw [segments_cons_of_not_front hdelimiter fun h => hnot h.isInfix,
      ih fun h => hnot (h.trans (List.suffix_cons c s).isInfix)]
    rfl

/-- What stands before the first place of the delimiter is the first segment. -/
theorem segments_of_first (hdelimiter : delimiter ≠ [])
    (hfirst : ∀ i, Occurs delimiter (front ++ (delimiter ++ rest)) i → front.length ≤ i) :
    segments delimiter (front ++ (delimiter ++ rest)) = front :: segments delimiter rest := by
  induction front with
  | nil => exact segments_append_self hdelimiter rest
  | cons c front ih =>
    have hnot : ¬ delimiter <+: c :: (front ++ (delimiter ++ rest)) := by
      intro hfront
      exact absurd (hfirst 0 (occurs_zero_iff.mpr hfront)) (by simp)
    have hbehind : ∀ i, Occurs delimiter (front ++ (delimiter ++ rest)) i →
        front.length ≤ i := by
      intro i hi
      exact Nat.le_of_succ_le_succ (hfirst (i + 1) (occurs_cons_succ_iff.mpr hi))
    rw [List.cons_append, segments_cons_of_not_front hdelimiter hnot, ih hbehind]
    rfl

/-! ## Section 2: All cuts -/

/-- What holds of a text that stays whole, and of one that is cut if it holds of what stands behind
the first cut, holds of all texts and their segments. -/
theorem segments_induction (hdelimiter : delimiter ≠ []) {P : List Char → List (List Char) → Prop}
    (whole : ∀ s, ¬ delimiter <:+: s → P s [s])
    (cut : ∀ front rest,
      (∀ i, Occurs delimiter (front ++ (delimiter ++ rest)) i → front.length ≤ i) →
      P rest (segments delimiter rest) →
      P (front ++ (delimiter ++ rest)) (front :: segments delimiter rest))
    (s : List Char) : P s (segments delimiter s) := by
  induction hlength : s.length using Nat.strong_induction_on generalizing s with
  | _ n ih =>
    by_cases hinside : delimiter <:+: s
    · obtain ⟨place, hplace⟩ := exists_occurs_iff.mpr hinside
      have hselects := first?_selects delimiter s
      cases hfirst : first? delimiter s with
      | none =>
        rw [hfirst] at hselects
        exact absurd hplace (Set.eq_empty_iff_forall_notMem.mp hselects place)
      | some i =>
        rw [hfirst] at hselects
        obtain ⟨⟨front, rest, rfl, rfl⟩, hleast⟩ := hselects
        have hbefore (j : Nat) (hj : Occurs delimiter (front ++ (delimiter ++ rest)) j) :
            front.length ≤ j := hleast hj
        -- The delimiter is not empty, so that what stands behind it is shorter
        have hshorter : rest.length < n := by
          have hpos := List.length_pos_of_ne_nil hdelimiter
          simp only [List.length_append] at hlength
          omega
        rw [segments_of_first hdelimiter hbefore]
        exact cut front rest hbefore (ih rest.length hshorter rest rfl)
    · rw [segments_of_not_inside hdelimiter hinside]
      exact whole s hinside

theorem segments_ne_nil (delimiter s : List Char) : segments delimiter s ≠ [] := by
  by_cases hdelimiter : delimiter = []
  · simp [segments, hdelimiter]
  · induction s using segments_induction hdelimiter with
    | whole s hnot => exact List.cons_ne_nil s []
    | cut front rest hfirst ih => exact List.cons_ne_nil front _

/-- Put together with the delimiter between them, the segments are the text. -/
theorem intercalate_segments (hdelimiter : delimiter ≠ []) (s : List Char) :
    delimiter.intercalate (segments delimiter s) = s := by
  induction s using segments_induction hdelimiter with
  | whole s hnot => exact List.intercalate_singleton
  | cut front rest hfirst ih =>
    rw [List.intercalate_cons_of_ne_nil (segments_ne_nil delimiter rest), ih,
      List.append_assoc]

/-- The delimiter stands in no segment. -/
theorem not_infix_of_mem_segments (hdelimiter : delimiter ≠ [])
    (hmem : segment ∈ segments delimiter s) : ¬ delimiter <:+: segment := by
  induction s using segments_induction hdelimiter with
  | whole s hnot =>
    rw [List.mem_singleton.mp hmem]
    exact hnot
  | cut front rest hfirst ih =>
    rcases List.mem_cons.mp hmem with rfl | hrest
    · intro hinside
      obtain ⟨i, hi⟩ := exists_occurs_iff.mpr hinside
      -- A place in the first segment would come before the first place
      have hroom := hi.add_length_le
      have hpos := List.length_pos_of_ne_nil hdelimiter
      have hplace := hfirst i (hi.append_right _)
      omega
    · exact ih hrest

/-! ## Section 3: The places of the cuts -/

/-- Places at which a needle stands one behind the other: the first of them is the least that is not
before a start, and the next one the least that is not before the end of the needle there. -/
inductive InTurn (needle s : List Char) : Nat → List Nat → Prop where
  | done {start : Nat} (h : ∀ i, start ≤ i → ¬ Occurs needle s i) : InTurn needle s start []
  | next {start i : Nat} {places : List Nat}
      (hi : IsLeast {i | start ≤ i ∧ Occurs needle s i} i)
      (h : InTurn needle s (i + needle.length) places) : InTurn needle s start (i :: places)

/-- No text can be cut at other places. -/
theorem InTurn.unique {start : Nat} {places others : List Nat}
    (h : InTurn delimiter s start places) (hothers : InTurn delimiter s start others) :
    others = places := by
  induction h generalizing others with
  | done hnone =>
    cases hothers with
    | done => rfl
    | next hi => exact absurd hi.1.2 (hnone _ hi.1.1)
  | next hi _ ih =>
    cases hothers with
    | done hnone => exact absurd hi.1.2 (hnone _ hi.1.1)
    | next hj hrest =>
      obtain rfl := hj.unique hi
      rw [ih hrest]

/-- The rest of a text is cut where the text is, and there is one more segment than cuts. -/
theorem exists_inTurn (hdelimiter : delimiter ≠ []) {start : Nat} (hstart : start ≤ s.length) :
    ∃ places, InTurn delimiter s start places ∧
      (segments delimiter (s.drop start)).length = places.length + 1 := by
  generalize hrest : s.drop start = behind
  induction behind using segments_induction hdelimiter generalizing start with
  | whole behind hnot =>
    refine ⟨[], .done ?_, rfl⟩
    intro i hi hoccurs
    apply hnot
    rw [← hrest, ← exists_occurs_iff]
    exact ⟨i - start, (occurs_drop_iff hstart).mpr (by rwa [Nat.sub_add_cancel hi])⟩
  | cut front rest hfirst ih =>
    have hlength : front.length + (delimiter.length + rest.length) = s.length - start := by
      simpa using (congrArg List.length hrest).symm
    have hbehind : s.drop (front.length + start + delimiter.length) = rest := by
      have hdrop : s.drop (start + (front.length + delimiter.length)) =
          (front ++ (delimiter ++ rest)).drop (front.length + delimiter.length) := by
        rw [← hrest, List.drop_drop]
      rw [Nat.add_comm front.length start, Nat.add_assoc, hdrop]
      simp
    obtain ⟨places, hplaces, hcount⟩ := ih (by omega) hbehind
    refine ⟨(front.length + start) :: places, .next ⟨⟨by omega, ?_⟩, ?_⟩ hplaces, ?_⟩
    · rw [← occurs_drop_iff hstart, hrest]
      exact ⟨front, rest, rfl, rfl⟩
    · intro i hi
      obtain ⟨hi, hoccurs⟩ := hi
      have hplace := hfirst (i - start) (by
        rwa [← hrest, occurs_drop_iff hstart, Nat.sub_add_cancel hi])
      omega
    · rw [List.length_cons, hcount, List.length_cons]

theorem length_segments (hdelimiter : delimiter ≠ []) {places : List Nat}
    (h : InTurn delimiter s 0 places) :
    (segments delimiter s).length = places.length + 1 := by
  obtain ⟨others, hothers, hcount⟩ := exists_inTurn hdelimiter (Nat.zero_le s.length)
  rwa [← hothers.unique h] at hcount

/-! ## Section 4: Cuts at one character -/

theorem segments_of_not_mem (h : c ∉ s) : segments [c] s = [s] := by
  apply segments_of_not_inside (List.cons_ne_nil c [])
  intro hinside
  exact h (hinside.subset List.mem_cons_self)

theorem segments_append_cons (h : c ∉ front) (rest : List Char) :
    segments [c] (front ++ c :: rest) = front :: segments [c] rest := by
  apply segments_of_first (List.cons_ne_nil c [])
  intro i hi
  by_contra hbefore
  have hc := hi.getElem?_eq
  rw [List.getElem?_append_left (by omega)] at hc
  exact h (List.mem_of_getElem? hc)

end JobScript.Text
