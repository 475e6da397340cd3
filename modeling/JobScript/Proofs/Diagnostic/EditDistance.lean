import JobScript.Diagnostic.EditDistance
import Mathlib.Order.Bounds.Basic

/-!
# Distances Count Edits

The distance of two texts is the least number of edits that lead from one to the other, where an
edit inserts, deletes or replaces one character. The rows that compute it hold the distances of
beginnings, while the recursion that defines it takes characters off the front; both agree because
texts can be read backwards.

## Architecture

- `Edit`, `Edits`: one edit, and so many edits in turn; `Edits.trans`, `Edits.symm`, `Edits.reverse`
- `levenshtein`: the distance by recursion over characters
- `levenshtein_le_of_edit`: an edit changes a distance by one at most
- `isLeast_levenshtein`: no fewer edits lead from one text to the other
- `row`, `nextRow_row`: what a row holds, and that the next one holds it as well
- `editDistance_counts_edits`: all that is told of a distance
-/

namespace JobScript

namespace EditDistance

/-! ## Section 1: Edits -/

/-- One edit of a text: a character is inserted, deleted or replaced. -/
inductive Edit : List Char → List Char → Prop where
  | insert (before after : List Char) (c : Char) : Edit (before ++ after) (before ++ c :: after)
  | delete (before after : List Char) (c : Char) : Edit (before ++ c :: after) (before ++ after)
  | substitute (before after : List Char) (c d : Char) :
    Edit (before ++ c :: after) (before ++ d :: after)

/-- So many edits in turn lead from one text to another. -/
inductive Edits : Nat → List Char → List Char → Prop where
  | done (a : List Char) : Edits 0 a a
  | next {n : Nat} {a b c : List Char} : Edit a b → Edits n b c → Edits (n + 1) a c

namespace Edit

variable {a b : List Char}

/-- What an edit does, another one undoes. -/
theorem symm (h : Edit a b) : Edit b a := by
  cases h with
  | insert before after c => exact .delete before after c
  | delete before after c => exact .insert before after c
  | substitute before after c d => exact .substitute before after d c

theorem cons (x : Char) (h : Edit a b) : Edit (x :: a) (x :: b) := by
  cases h with
  | insert before after c => exact .insert (x :: before) after c
  | delete before after c => exact .delete (x :: before) after c
  | substitute before after c d => exact .substitute (x :: before) after c d

theorem reverse (h : Edit a b) : Edit a.reverse b.reverse := by
  cases h with
  | insert before after c => simpa using Edit.insert after.reverse before.reverse c
  | delete before after c => simpa using Edit.delete after.reverse before.reverse c
  | substitute before after c d => simpa using Edit.substitute after.reverse before.reverse c d

theorem length_le (h : Edit a b) : b.length ≤ a.length + 1 := by
  cases h <;> simp only [List.length_append, List.length_cons] <;> omega

end Edit

namespace Edits

variable {m n : Nat} {a b c : List Char}

theorem single (h : Edit a b) : Edits 1 a b :=
  .next h (.done b)

theorem trans (h : Edits m a b) (h' : Edits n b c) : Edits (m + n) a c := by
  induction h with
  | done a => rwa [Nat.zero_add]
  | next hedit _ ih =>
    rw [Nat.add_right_comm]
    exact .next hedit (ih h')

theorem symm (h : Edits n a b) : Edits n b a := by
  induction h with
  | done a => exact .done a
  | next hedit _ ih => exact ih.trans (.single hedit.symm)

theorem cons (x : Char) (h : Edits n a b) : Edits n (x :: a) (x :: b) := by
  induction h with
  | done a => exact .done _
  | next hedit _ ih => exact .next (hedit.cons x) ih

theorem reverse (h : Edits n a b) : Edits n a.reverse b.reverse := by
  induction h with
  | done a => exact .done _
  | next hedit _ ih => exact .next hedit.reverse ih

theorem length_le (h : Edits n a b) : b.length ≤ a.length + n := by
  induction h with
  | done a => exact Nat.le_refl _
  | next hedit _ ih =>
    have := hedit.length_le
    omega

theorem eq_of_zero (h : Edits 0 a b) : a = b := by
  cases h
  rfl

/-- Every text can be written from nothing. -/
theorem insertAll (b : List Char) : Edits b.length [] b := by
  induction b with
  | nil => exact .done []
  | cons d b ih => exact ih.trans (.single (.insert [] b d))

end Edits

/-! ## Section 2: The recursion over characters -/

/-- The distance of two texts, by their first characters: keep or replace, delete, insert. -/
def levenshtein : List Char → List Char → Nat
  | [], b => b.length
  | c :: a, [] => (c :: a).length
  | c :: a, d :: b =>
    min (min (levenshtein a b + if c = d then 0 else 1) (levenshtein a (d :: b) + 1))
      (levenshtein (c :: a) b + 1)
termination_by a b => a.length + b.length

@[simp] theorem levenshtein_nil_left (b : List Char) : levenshtein [] b = b.length := by
  rw [levenshtein]

@[simp] theorem levenshtein_nil_right (a : List Char) : levenshtein a [] = a.length := by
  cases a <;> rw [levenshtein]

variable (a b : List Char) (c d : Char)

theorem levenshtein_cons_cons :
    levenshtein (c :: a) (d :: b) =
      min (min (levenshtein a b + if c = d then 0 else 1) (levenshtein a (d :: b) + 1))
        (levenshtein (c :: a) b + 1) := by
  rw [levenshtein]

/-- Replacing a character is one edit, or none at all. -/
theorem cost_le_one : (if c = d then 0 else 1) ≤ 1 := by
  split <;> decide

/-! ### Edits against distances -/

theorem levenshtein_cons_right_le : levenshtein a (d :: b) ≤ levenshtein a b + 1 := by
  cases a with
  | nil => simp
  | cons c a =>
    rw [levenshtein_cons_cons]
    exact min_le_right _ _

theorem levenshtein_cons_left_le : levenshtein (c :: a) b ≤ levenshtein a b + 1 := by
  cases b with
  | nil => simp
  | cons d b =>
    rw [levenshtein_cons_cons]
    exact (min_le_left _ _).trans (min_le_right _ _)

theorem levenshtein_le_cons_left : levenshtein a b ≤ levenshtein (c :: a) b + 1 := by
  induction b with
  | nil =>
    simp only [levenshtein_nil_right, List.length_cons]
    omega
  | cons d b ih =>
    rw [levenshtein_cons_cons]
    have := levenshtein_cons_right_le a b d
    omega

theorem levenshtein_substitute_le : levenshtein (d :: a) b ≤ levenshtein (c :: a) b + 1 := by
  induction b with
  | nil => simp
  | cons e b ih =>
    rw [levenshtein_cons_cons, levenshtein_cons_cons]
    have := cost_le_one d e
    omega

variable {a b}

/-- If one edit at most lies between two texts in every distance, it does so behind a character. -/
theorem levenshtein_cons_le_cons {a' : List Char}
    (h : ∀ b, levenshtein a b ≤ levenshtein a' b + 1) (b : List Char) :
    levenshtein (c :: a) b ≤ levenshtein (c :: a') b + 1 := by
  induction b with
  | nil => simpa using h []
  | cons d b ih =>
    rw [levenshtein_cons_cons, levenshtein_cons_cons]
    have hrest := h b
    have hdelete := h (d :: b)
    omega

/-- The same behind a text, taken off character by character. -/
theorem levenshtein_append_le_append {a' : List Char}
    (h : ∀ b, levenshtein a b ≤ levenshtein a' b + 1) (before b : List Char) :
    levenshtein (before ++ a) b ≤ levenshtein (before ++ a') b + 1 := by
  induction before generalizing b with
  | nil => exact h b
  | cons x before ih => exact levenshtein_cons_le_cons x ih b

/-- An edit changes a distance by one at most. -/
theorem levenshtein_le_of_edit {a' : List Char} (h : Edit a a') (b : List Char) :
    levenshtein a b ≤ levenshtein a' b + 1 := by
  cases h with
  | insert before after c =>
    exact levenshtein_append_le_append (levenshtein_le_cons_left after · c) before b
  | delete before after c =>
    exact levenshtein_append_le_append (levenshtein_cons_left_le after · c) before b
  | substitute before after c d =>
    exact levenshtein_append_le_append (levenshtein_substitute_le after · d c) before b

theorem levenshtein_self (a : List Char) : levenshtein a a = 0 := by
  induction a with
  | nil => simp
  | cons c a ih => simp [levenshtein_cons_cons, ih]

theorem levenshtein_le_of_edits {n : Nat} (h : Edits n a b) : levenshtein a b ≤ n := by
  induction h with
  | done a => exact Nat.le_of_eq (levenshtein_self a)
  | next hedit _ ih => exact (levenshtein_le_of_edit hedit _).trans (Nat.succ_le_succ ih)

/-- As many edits as the distance says do lead from one text to the other. -/
theorem edits_levenshtein (a b : List Char) : Edits (levenshtein a b) a b := by
  fun_induction levenshtein a b with
  | case1 b => exact .insertAll b
  | case2 c a => exact (Edits.insertAll (c :: a)).symm
  | case3 c a d b ihkeep ihdelete ihinsert =>
    have hkeep : Edits (levenshtein a b + if c = d then 0 else 1) (c :: a) (d :: b) := by
      split
      · rename_i hsame
        rw [hsame]
        exact ihkeep.cons d
      · exact (ihkeep.cons c).trans (.single (.substitute [] b c d))
    have hdelete : Edits (levenshtein a (d :: b) + 1) (c :: a) (d :: b) :=
      .next (.delete [] a c) ihdelete
    have hinsert : Edits (levenshtein (c :: a) b + 1) (c :: a) (d :: b) :=
      ihinsert.trans (.single (.insert [] b d))
    exact min_rec' (Edits · _ _) (min_rec' (Edits · _ _) hkeep hdelete) hinsert

/-- **The distance is the least number of edits.** -/
theorem isLeast_levenshtein (a b : List Char) :
    IsLeast {n | Edits n a b} (levenshtein a b) :=
  ⟨edits_levenshtein a b, fun _ => levenshtein_le_of_edits⟩

/-- Read backwards, texts are as far apart. -/
theorem levenshtein_reverse (a b : List Char) :
    levenshtein a.reverse b.reverse = levenshtein a b := by
  apply Nat.le_antisymm
  · exact levenshtein_le_of_edits (edits_levenshtein a b).reverse
  · simpa using levenshtein_le_of_edits (edits_levenshtein a.reverse b.reverse).reverse

/-! ## Section 3: Rows

Beginnings are written backwards here, so that their last characters come first.
-/

/-- The cells of the row for the beginning `p` of the first text, to the right of the cell for the
beginning `q` of the second text: one for each character that follows `q`. -/
def cells (p q : List Char) : List Char → List Nat
  | [] => []
  | d :: b => levenshtein p (d :: q) :: cells p (d :: q) b

/-- The row for the beginning `p` of the first text. -/
def row (p b : List Char) : List Nat :=
  levenshtein p [] :: cells p [] b

variable (p q : List Char)

/-- One more character of the first text takes the cells of one row to those of the next. -/
theorem nextCells_cells (b : List Char) :
    nextCells c (levenshtein p q) (levenshtein (c :: p) q) b (cells p q b) =
      cells (c :: p) q b := by
  induction b generalizing q with
  | nil => rfl
  | cons d b ih => rw [cells, nextCells, cells, ← levenshtein_cons_cons, ih]

theorem nextRow_row (b : List Char) : nextRow b (row p b) c = row (c :: p) b := by
  have hcorner : levenshtein p [] + 1 = levenshtein (c :: p) [] := by simp
  rw [row, nextRow, hcorner, nextCells_cells, row]

theorem cells_nil_left (b : List Char) :
    cells [] q b = List.range' (q.length + 1) b.length := by
  induction b generalizing q with
  | nil => rfl
  | cons d b ih => rw [cells, ih, levenshtein_nil_left, List.length_cons, List.length_cons,
      List.range'_succ]

theorem firstRow_eq_row (b : List Char) : firstRow b = row [] b := by
  rw [firstRow, row, cells_nil_left, levenshtein_nil_left, List.range_eq_range', List.range'_succ,
    List.length_nil]

/-- The rows follow the first text: the last one is that of the whole text. -/
theorem foldl_nextRow (b a : List Char) :
    a.foldl (nextRow b) (row p b) = row (a.reverse ++ p) b := by
  induction a generalizing p with
  | nil => rfl
  | cons c a ih => rw [List.foldl_cons, nextRow_row, ih, List.reverse_cons, List.append_assoc,
      List.singleton_append]

/-- The last cell is that of the whole second text. -/
theorem getLastD_cells (b : List Char) :
    (cells p q b).getLastD (levenshtein p q) = levenshtein p (b.reverse ++ q) := by
  induction b generalizing q with
  | nil => rfl
  | cons d b ih => rw [cells, List.getLastD_cons, ih, List.reverse_cons, List.append_assoc,
      List.singleton_append]

/-- **What the rows compute** is the distance by recursion over characters. -/
theorem getLastD_lastRow (a b : List Char) : (lastRow a b).getLastD 0 = levenshtein a b := by
  rw [lastRow, firstRow_eq_row, foldl_nextRow, row, List.getLastD_cons, getLastD_cells,
    List.append_nil, List.append_nil, levenshtein_reverse]

end EditDistance

/-! ## Section 4: Distances of texts -/

open EditDistance

theorem isLeast_editDistance (a b : String) :
    IsLeast {n | Edits n a.toList b.toList} (editDistance a b) := by
  rw [editDistance, getLastD_lastRow]
  exact isLeast_levenshtein a.toList b.toList

theorem editDistance_comm (a b : String) : editDistance a b = editDistance b a := by
  apply Nat.le_antisymm
  · exact (isLeast_editDistance a b).2 (isLeast_editDistance b a).1.symm
  · exact (isLeast_editDistance b a).2 (isLeast_editDistance a b).1.symm

/-- An edit makes a text longer by one character at most. -/
theorem length_le_add_editDistance (a b : String) : b.length ≤ a.length + editDistance a b :=
  (isLeast_editDistance a b).1.length_le

/-- **Distances count edits.** The distance of two texts is the least number of insertions, deletions
and replacements of single characters that lead from one to the other, and what the recursion over
their characters says. So it is the same both ways, zero for equal texts only, never greater than
with a stop on the way, and at least the difference of the lengths. -/
theorem editDistance_counts_edits (a b : String) :
    IsLeast {n | Edits n a.toList b.toList} (editDistance a b) ∧
      editDistance a b = levenshtein a.toList b.toList ∧
      editDistance a b = editDistance b a ∧
      (editDistance a b = 0 ↔ a = b) ∧
      (∀ c, editDistance a c ≤ editDistance a b + editDistance b c) ∧
      a.length ≤ b.length + editDistance a b ∧ b.length ≤ a.length + editDistance a b := by
  refine ⟨isLeast_editDistance a b, getLastD_lastRow _ _, editDistance_comm a b, ?_, ?_, ?_,
    length_le_add_editDistance a b⟩
  · constructor
    · intro hzero
      have hedits := (isLeast_editDistance a b).1
      rw [hzero] at hedits
      exact String.toList_inj.mp hedits.eq_of_zero
    · rintro rfl
      exact Nat.le_zero.mp ((isLeast_editDistance a a).2 (.done _))
  · intro c
    exact (isLeast_editDistance a c).2
      ((isLeast_editDistance a b).1.trans (isLeast_editDistance b c).1)
  · rw [editDistance_comm]
    exact length_le_add_editDistance b a

end JobScript
