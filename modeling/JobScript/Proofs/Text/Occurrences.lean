import JobScript.Text.Search
import Mathlib.Data.List.Infix
import Mathlib.Order.Bounds.Basic

/-!
# Where a Needle Stands

The places at which a needle stands in a text, and which of them a search finds: from the front, the
least one that is not before a start; from the back, the greatest one that is not behind a limit. An
empty needle stands everywhere, the end of the text included.

## Architecture

- `Occurs`: the places of a needle; what stands at the front, at the end, and anywhere
- `Selects`: the best of some positions, or none if there are none
- `first?_selects`, `firstFrom?_selects`, `lastUpTo?_selects`: the three searches
-/

namespace JobScript.Text

variable {needle s : List Char} {i : Nat}

/-! ## Section 1: Places -/

/-- The needle stands in the text, behind its first `i` characters. -/
def Occurs (needle s : List Char) (i : Nat) : Prop :=
  ∃ before after, before.length = i ∧ s = before ++ (needle ++ after)

theorem occurs_iff : Occurs needle s i ↔ i ≤ s.length ∧ needle <+: s.drop i := by
  constructor
  · rintro ⟨before, after, rfl, rfl⟩
    simp
  · rintro ⟨hi, after, hafter⟩
    refine ⟨s.take i, after, ?_, ?_⟩
    · simpa using hi
    · rw [hafter, List.take_append_drop]

theorem occursAt_iff : occursAt needle s i = true ↔ Occurs needle s i := by
  rw [occurs_iff, occursAt, Bool.and_eq_true, decide_eq_true_iff, List.isPrefixOf_iff_prefix]

theorem occurs_zero_iff : Occurs needle s 0 ↔ needle <+: s := by
  simp [occurs_iff]

theorem occurs_cons_succ_iff {c : Char} : Occurs needle (c :: s) (i + 1) ↔ Occurs needle s i := by
  simp [occurs_iff]

/-- Places behind a start are places in the rest of the text. -/
theorem occurs_drop_iff {start : Nat} (hstart : start ≤ s.length) :
    Occurs needle (s.drop start) i ↔ Occurs needle s (i + start) := by
  rw [occurs_iff, occurs_iff, List.length_drop, List.drop_drop, Nat.add_comm start i]
  apply and_congr_left'
  omega

theorem Occurs.add_length_le (h : Occurs needle s i) : i + needle.length ≤ s.length := by
  obtain ⟨before, after, rfl, rfl⟩ := h
  simp

theorem Occurs.append_right (h : Occurs needle s i) (others : List Char) :
    Occurs needle (s ++ others) i := by
  obtain ⟨before, after, hbefore, rfl⟩ := h
  exact ⟨before, after ++ others, hbefore, by simp⟩

theorem exists_occurs_iff : (∃ i, Occurs needle s i) ↔ needle <:+: s := by
  constructor
  · rintro ⟨_, before, after, -, rfl⟩
    exact ⟨before, after, List.append_assoc before needle after⟩
  · rintro ⟨before, after, rfl⟩
    exact ⟨before.length, before, after, rfl, List.append_assoc before needle after⟩

/-- At the end of a text stands what stands at the last place that has room for it. -/
theorem occurs_last_iff (hroom : needle.length ≤ s.length) :
    Occurs needle s (s.length - needle.length) ↔ needle <:+ s := by
  constructor
  · rintro ⟨before, after, hbefore, rfl⟩
    -- Nothing is left behind the needle
    obtain rfl : after = [] := by
      apply List.eq_nil_of_length_eq_zero
      simp at hbefore hroom
      omega
    simp
  · rintro ⟨before, rfl⟩
    exact ⟨before, [], by simp, by simp⟩

/-- Where a needle of one character stands, that character is found. -/
theorem Occurs.getElem?_eq {c : Char} (h : Occurs [c] s i) : s[i]? = some c := by
  obtain ⟨before, after, rfl, rfl⟩ := h
  simp

/-- A character behind others stands in no other place. -/
theorem eq_of_occurs_behind_replicate {c d : Char} (hne : d ≠ c) {n : Nat}
    (h : Occurs [d] (List.replicate n c ++ [d]) i) : i = n := by
  have hi := h.add_length_le
  simp at hi
  by_contra hbefore
  have hlt : i < n := by omega
  have hd := h.getElem?_eq
  rw [List.getElem?_append_left (by simpa), List.getElem?_replicate_of_lt hlt] at hd
  exact hne (Option.some_inj.mp hd).symm

/-! ## Section 2: Searches -/

/-- A search gives the best of some positions, or nothing if there are none. -/
def Selects (best : Set Nat → Nat → Prop) (positions : Set Nat) : Option Nat → Prop
  | some i => best positions i
  | none => positions = ∅

theorem Selects.of_mem {best : Set Nat → Nat → Prop} {positions : Set Nat}
    {position : Option Nat} (h : Selects best positions position) (hi : i ∈ position) :
    best positions i := by
  rwa [Option.mem_def.mp hi] at h

theorem Selects.isSome_iff {best : Set Nat → Nat → Prop} {positions : Set Nat}
    {position : Option Nat} (h : Selects best positions position)
    (hbest : ∀ i, best positions i → i ∈ positions) :
    position.isSome = true ↔ positions.Nonempty := by
  cases position with
  | none =>
    obtain rfl : positions = ∅ := h
    simp
  | some i => exact iff_of_true rfl ⟨i, hbest i h⟩

theorem first?_selects (needle s : List Char) :
    Selects IsLeast {i | Occurs needle s i} (first? needle s) := by
  induction s with
  | nil =>
    unfold first?
    split
    case isTrue hempty =>
      rw [List.isEmpty_iff] at hempty
      refine ⟨?_, fun _ _ => Nat.zero_le _⟩
      simp [occurs_zero_iff, hempty]
    case isFalse hsome =>
      apply Set.eq_empty_of_forall_notMem
      intro i hi
      have hlength := Occurs.add_length_le hi
      apply hsome
      simp at hlength ⊢
      exact hlength.2
  | cons c s ih =>
    unfold first?
    split
    case isTrue hfront =>
      rw [List.isPrefixOf_iff_prefix] at hfront
      exact ⟨occurs_zero_iff.mpr hfront, fun _ _ => Nat.zero_le _⟩
    case isFalse hfront =>
      rw [List.isPrefixOf_iff_prefix, ← occurs_zero_iff] at hfront
      -- The needle does not stand at the front, so every place of it lies in the rest
      cases hrest : first? needle s with
      | none =>
        rw [hrest] at ih
        apply Set.eq_empty_of_forall_notMem
        intro i hi
        cases i with
        | zero => exact hfront hi
        | succ i => exact Set.eq_empty_iff_forall_notMem.mp ih i (occurs_cons_succ_iff.mp hi)
      | some j =>
        rw [hrest] at ih
        refine ⟨occurs_cons_succ_iff.mpr ih.1, ?_⟩
        intro i hi
        cases i with
        | zero => exact absurd hi hfront
        | succ i => exact Nat.succ_le_succ (ih.2 (occurs_cons_succ_iff.mp hi))

/-- A start beyond the end of the text counts as its end. -/
theorem firstFrom?_selects (needle s : List Char) (start : Nat) :
    Selects IsLeast {i | min start s.length ≤ i ∧ Occurs needle s i}
      (firstFrom? needle s start) := by
  have hstart : min start s.length ≤ s.length := Nat.min_le_right _ _
  have hfirst := first?_selects needle (s.drop (min start s.length))
  unfold firstFrom?
  cases hrest : first? needle (s.drop (min start s.length)) with
  | none =>
    rw [hrest] at hfirst
    apply Set.eq_empty_of_forall_notMem
    rintro i ⟨hi, hoccurs⟩
    apply Set.eq_empty_iff_forall_notMem.mp hfirst (i - min start s.length)
    exact (occurs_drop_iff hstart).mpr (by rwa [Nat.sub_add_cancel hi])
  | some j =>
    rw [hrest] at hfirst
    refine ⟨⟨Nat.le_add_left _ _, (occurs_drop_iff hstart).mp hfirst.1⟩, ?_⟩
    rintro i ⟨hi, hoccurs⟩
    apply Nat.add_le_of_le_sub hi
    apply hfirst.2
    exact (occurs_drop_iff hstart).mpr (by rwa [Nat.sub_add_cancel hi])

theorem lastUpTo?_selects (needle s : List Char) (limit : Nat) :
    Selects IsGreatest {i | i ≤ limit ∧ Occurs needle s i} (lastUpTo? needle s limit) := by
  induction limit with
  | zero =>
    unfold lastUpTo?
    split
    case isTrue hfront =>
      exact ⟨⟨le_rfl, occursAt_iff.mp hfront⟩, fun _ hi => hi.1⟩
    case isFalse hfront =>
      apply Set.eq_empty_of_forall_notMem
      rintro i ⟨hi, hoccurs⟩
      obtain rfl := Nat.le_zero.mp hi
      exact hfront (occursAt_iff.mpr hoccurs)
  | succ limit ih =>
    unfold lastUpTo?
    split
    case isTrue hlimit =>
      exact ⟨⟨le_rfl, occursAt_iff.mp hlimit⟩, fun _ hi => hi.1⟩
    case isFalse hlimit =>
      -- The limit itself is no place, so the places are those up to the next lower limit
      have hsame : {i | i ≤ limit + 1 ∧ Occurs needle s i} =
          {i | i ≤ limit ∧ Occurs needle s i} := by
        ext i
        apply and_congr_left
        intro hoccurs
        rw [Nat.le_succ_iff, or_iff_left]
        rintro rfl
        exact hlimit (occursAt_iff.mpr hoccurs)
      rwa [hsame]

theorem contains_iff : contains needle s = true ↔ needle <:+: s := by
  rw [contains, (first?_selects needle s).isSome_iff fun _ h => h.1, ← exists_occurs_iff]
  rfl

end JobScript.Text
