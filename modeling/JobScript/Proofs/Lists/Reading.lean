import JobScript.Execution.TextList
import JobScript.Proofs.Typing.Judgement
import Mathlib.Data.List.Basic

/-!
# Reading a List

A list is read value by value. The cursor stands on the value that is read next, or behind the last
one when the list is read to its end; a value that is added then is the one that is read next. One
thing breaks this: a value that is removed from a list that is read to its end. It takes the end
away from under the cursor, and the value that is added next is passed over.

## Architecture

- `Becomes`, `becomes_run`: all that a call can make of a list
- `results`: what calls give, one after the other; `results_nextValue`, `results_firstValue`
- `Made`: the lists that calls make of new lists
- `RemovesBehindReading`: the one removal that leaves the cursor beyond the end
- `appended_value_read_next`: the cursor without such removals, and after one
-/

namespace JobScript.TextList

open TextListOperation

variable {l after : TextList} {op : TextListOperation} {arguments : List Value} {result : Result}

/-! ## Section 1: Calls -/

/-- What a call can make of a list. Where no value is found or drawn, the list stays. -/
inductive Becomes (l : TextList) : TextListOperation → List Value → TextList → Prop where
  | kept {op : TextListOperation} {arguments : List Value} : Becomes l op arguments l
  | appended {arguments : List Value} (value : Option String) :
      Becomes l .addValue arguments (l.push value)
  | takenOver {arguments : List Value} {other : TextList}
      (hother : Value.textList other ∈ arguments) : Becomes l .assign arguments (l.assign other)
  | inserted {arguments : List Value} {i : Nat} (hi : i ≤ l.length) (value : Option String) :
      Becomes l .insert arguments { l with values := l.values.insertIdx i value }
  | replaced {arguments : List Value} {i : Nat} (hi : i < l.length) (value : Option String) :
      Becomes l .setValueAt arguments { l with values := l.values.set i value }
  | removed {op : TextListOperation} {arguments : List Value} {i : Nat}
      (hop : op = .remove ∨ op = .removeValueAt) (hi : i < l.length) :
      Becomes l op arguments { l with values := l.values.eraseIdx i }
  | cleared {arguments : List Value} : Becomes l .removeAll arguments l.clear
  | readFirst {arguments : List Value} : Becomes l .firstValue arguments l.firstValue.1
  | readNext {arguments : List Value} : Becomes l .nextValue arguments l.nextValue.1
  | drawn {arguments : List Value} (source : Random.Source) :
      Becomes l .randomValue arguments { l with source }

theorem of_checkedIndex {operation : String} {index : Int32} {bound i : Nat}
    (h : l.checkedIndex operation index bound = .ok i) : i < bound := by
  unfold checkedIndex at h
  split at h
  case isTrue hindex =>
    obtain rfl := Except.ok.inj h
    omega
  case isFalse => cases h

theorem insert_ok {index : Int32} {value : Option String} (h : l.insert index value = .ok after) :
    ∃ i, i ≤ l.length ∧ after = { l with values := l.values.insertIdx i value } := by
  unfold insert at h
  obtain ⟨i, hi, hafter⟩ := exists_of_bind_ok h
  exact ⟨i, Nat.le_of_lt_succ (of_checkedIndex hi), (Except.ok.inj hafter).symm⟩

theorem setAt_ok {index : Int32} {value : Option String} (h : l.setAt index value = .ok after) :
    ∃ i, i < l.length ∧ after = { l with values := l.values.set i value } := by
  unfold setAt at h
  obtain ⟨i, hi, hafter⟩ := exists_of_bind_ok h
  exact ⟨i, of_checkedIndex hi, (Except.ok.inj hafter).symm⟩

theorem removeAt_ok {index : Int32} {removed : TextList × Option String}
    (h : l.removeAt index = .ok removed) :
    ∃ i, i < l.length ∧
      removed = ({ l with values := l.values.eraseIdx i }, l.values.getD i none) := by
  unfold removeAt at h
  obtain ⟨i, hi, hremoved⟩ := exists_of_bind_ok h
  exact ⟨i, of_checkedIndex hi, (Except.ok.inj hremoved).symm⟩

theorem lt_of_position? {needle : Option String} {ignoreCase : Bool} {i : Nat}
    (h : l.position? needle 0 ignoreCase = some i) : i < l.length := by
  simp only [position?, List.drop_zero, Nat.add_zero, Option.map_id'] at h
  exact (List.findIdx?_eq_some_iff_getElem.mp h).1

theorem mem_of_textList {operation : String} {i : Nat} {other : TextList}
    (h : Arguments.textList operation arguments i = .ok other) :
    Value.textList other ∈ arguments := by
  unfold Arguments.textList at h
  split at h
  case h_1 l hl =>
    obtain rfl := Except.ok.inj h
    exact List.mem_of_getElem? hl
  case h_2 => cases h

theorem becomes_run (h : op.run l arguments = .ok (after, result)) :
    Becomes l op arguments after := by
  cases op with
  | addValue =>
    obtain ⟨value, -, hafter⟩ := exists_of_bind_ok h
    cases hafter
    exact .appended value
  | assign =>
    obtain ⟨other, hother, hafter⟩ := exists_of_bind_ok h
    cases hafter
    exact .takenOver (mem_of_textList hother)
  | contains =>
    obtain ⟨needle, -, hflag⟩ := exists_of_bind_ok h
    obtain ⟨ignoreCase, -, hafter⟩ := exists_of_bind_ok hflag
    cases hafter
    exact .kept
  | indexOf | indexOfFrom =>
    obtain ⟨needle, -, hsearch⟩ := exists_of_bind_ok h
    obtain ⟨search, -, hafter⟩ := exists_of_bind_ok hsearch
    cases hafter
    exact .kept
  | insert =>
    obtain ⟨index, -, hvalue⟩ := exists_of_bind_ok h
    obtain ⟨value, -, hinsert⟩ := exists_of_bind_ok hvalue
    obtain ⟨inserted, hinserted, hafter⟩ := exists_of_bind_ok hinsert
    cases hafter
    obtain ⟨i, hi, rfl⟩ := insert_ok hinserted
    exact .inserted hi value
  | setValueAt =>
    obtain ⟨index, -, hvalue⟩ := exists_of_bind_ok h
    obtain ⟨value, -, hset⟩ := exists_of_bind_ok hvalue
    obtain ⟨replaced, hreplaced, hafter⟩ := exists_of_bind_ok hset
    cases hafter
    obtain ⟨i, hi, rfl⟩ := setAt_ok hreplaced
    exact .replaced hi value
  | remove =>
    obtain ⟨needle, -, hflag⟩ := exists_of_bind_ok h
    obtain ⟨ignoreCase, -, hafter⟩ := exists_of_bind_ok hflag
    cases hafter
    unfold removeFirst
    split
    case h_1 i hi => exact .removed (.inl rfl) (lt_of_position? hi)
    case h_2 => exact .kept
  | removeValueAt =>
    obtain ⟨index, -, hremove⟩ := exists_of_bind_ok h
    obtain ⟨removed, hremoved, hafter⟩ := exists_of_bind_ok hremove
    cases hafter
    obtain ⟨i, hi, rfl⟩ := removeAt_ok hremoved
    exact .removed (.inr rfl) hi
  | valueAt =>
    obtain ⟨index, -, hvalue⟩ := exists_of_bind_ok h
    obtain ⟨value, -, hafter⟩ := exists_of_bind_ok hvalue
    cases hafter
    exact .kept
  | randomValue =>
    cases h
    unfold randomValue
    split
    case isTrue => exact .kept
    case isFalse => exact .drawn _
  | firstValue =>
    cases h
    exact .readFirst
  | nextValue =>
    cases h
    exact .readNext
  | removeAll =>
    cases h
    exact .cleared
  | isEmpty | isNotEmpty | length =>
    cases h
    exact .kept

/-- What calls on a list give, one after the other. A call that fails leaves the list. -/
def results (l : TextList) : List (TextListOperation × List Value) → List (Except Cause Result)
  | [] => []
  | (op, arguments) :: calls =>
    match op.run l arguments with
    | .ok (after, result) => .ok result :: after.results calls
    | .error cause => .error cause :: l.results calls

/-! ## Section 2: Reading in order -/

theorem nextValue_of_none (h : l.values[l.cursor]? = none) : l.nextValue = (l, none) := by
  simp only [nextValue, h]

theorem nextValue_of_some {value : Option String} (h : l.values[l.cursor]? = some value) :
    l.nextValue = ({ l with cursor := l.cursor + 1 }, value) := by
  simp only [nextValue, h]

/-- Values are read from the cursor on, in order; behind the last one, unset is read. -/
theorem results_nextValue (l : TextList) (n : Nat) :
    l.results (List.replicate n (.nextValue, [])) =
      (List.range n).map fun i => .ok (.textOrUnset (l.values.getD (l.cursor + i) none)) := by
  induction n generalizing l with
  | zero => rfl
  | succ n ih =>
    have hrun : TextListOperation.nextValue.run l [] =
        .ok (l.nextValue.1, .textOrUnset l.nextValue.2) := rfl
    rw [List.replicate_succ, results, hrun, List.range_succ_eq_map, List.map_cons, List.map_map]
    simp only [ih]
    cases hvalue : l.values[l.cursor]? with
    | none =>
      rw [nextValue_of_none hvalue]
      rw [List.getElem?_eq_none_iff] at hvalue
      -- The cursor stays, and no value lies behind it
      have hnone (i : Nat) : l.values[l.cursor + i]? = none := by
        rw [List.getElem?_eq_none_iff]
        omega
      simp [hnone, hvalue, Function.comp_def]
    | some value =>
      rw [nextValue_of_some hvalue]
      simp [hvalue, Function.comp_def, Nat.add_assoc, Nat.add_comm 1]

/-- Reading from the first value on gives all values in order, wherever the cursor was. -/
theorem results_firstValue (l : TextList) (n : Nat) :
    l.results ((.firstValue, []) :: List.replicate n (.nextValue, [])) =
      (List.range (n + 1)).map fun i => .ok (.textOrUnset (l.values.getD i none)) := by
  have hrun : TextListOperation.firstValue.run l [] =
      .ok (l.firstValue.1, .textOrUnset l.firstValue.2) := rfl
  rw [results, hrun, List.range_succ_eq_map, List.map_cons, List.map_map]
  simp only [results_nextValue]
  cases hvalues : l.values with
  | nil => simp [firstValue, hvalues, Function.comp_def]
  | cons first rest => simp [firstValue, hvalues, Function.comp_def, Nat.add_comm 1]

theorem results_addValue (l : TextList) (values : List (Option String))
    (calls : List (TextListOperation × List Value)) :
    l.results (values.map (fun value => (.addValue, [.text value])) ++ calls) =
      values.map (fun _ => .ok .nothing) ++
        ({ l with values := l.values ++ values } : TextList).results calls := by
  induction values generalizing l with
  | nil => simp
  | cons value values ih =>
    have hadd : addValue.run l [.text value] = .ok (l.push value, .nothing) := rfl
    rw [List.map_cons, List.cons_append, results, hadd]
    simp [ih, push]

/-- Of values that are added to a list that is read to its end, those are passed over that do not
reach the cursor. -/
theorem results_addValue_nextValue (hread : l.length ≤ l.cursor) (values : List (Option String)) :
    l.results (values.map (fun value => (.addValue, [.text value])) ++ [(.nextValue, [])]) =
      values.map (fun _ => .ok .nothing) ++
        [.ok (.textOrUnset (values.getD (l.cursor - l.length) none))] := by
  have hnext : (l.values ++ values).getD l.cursor none =
      values.getD (l.cursor - l.length) none := by
    rw [List.getD_eq_getElem?_getD, List.getElem?_append_right hread,
      List.getD_eq_getElem?_getD]
    rfl
  have hresult := results_nextValue { l with values := l.values ++ values } 1
  rw [results_addValue]
  simp only [List.replicate_one, List.range_one, List.map_cons, List.map_nil, Nat.add_zero,
    hnext] at hresult
  rw [hresult]

/-! ## Section 3: The cursor -/

/-- One value is removed from a list that is read to its end. -/
structure RemovesBehindReading (l : TextList) (op : TextListOperation) (after : TextList) :
    Prop where
  removal : op = .remove ∨ op = .removeValueAt
  read : l.length ≤ l.cursor
  shorter : after.length < l.length

/-- The lists that calls make of new lists, as far as they are permitted. A list that is taken over
was made in the same way. -/
inductive Made (permitted : TextList → TextListOperation → TextList → Prop) : TextList → Prop where
  | new (source : Random.Source) : Made permitted { source }
  | called {l after : TextList} {op : TextListOperation} {arguments : List Value}
      {result : Result} (hl : Made permitted l)
      (htaken : ∀ other, Value.textList other ∈ arguments → Made permitted other)
      (hrun : op.run l arguments = .ok (after, result)) (hpermitted : permitted l op after) :
      Made permitted after

/-- One call leaves the cursor within the list, unless it removes a value behind the reading. -/
theorem Becomes.cursor_le (h : Becomes l op arguments after) (hl : l.cursor ≤ l.length)
    (htaken : ∀ other, Value.textList other ∈ arguments → other.cursor ≤ other.length)
    (hremoval : ¬ RemovesBehindReading l op after) : after.cursor ≤ after.length := by
  cases h with
  | kept => exact hl
  | appended value =>
    simp only [push, length, List.length_append] at hl ⊢
    omega
  | @takenOver _ other hother => exact htaken other hother
  | inserted hi value =>
    simp only [length, List.length_insertIdx_of_le_length hi] at hl ⊢
    omega
  | replaced hi value => simpa [length] using hl
  | removed hop hi =>
    have hshorter := List.length_eraseIdx_add_one hi
    -- The cursor stands on a value, so that there is room for it in the shorter list
    have hcursor : l.cursor < l.length := by
      by_contra hread
      exact hremoval ⟨hop, by omega, by simp only [length] at hi ⊢; omega⟩
    simp only [length] at hcursor ⊢
    omega
  | cleared => exact Nat.le_refl 0
  | readFirst =>
    unfold firstValue
    split
    case h_1 => exact Nat.zero_le _
    case h_2 first rest hvalues => simp [length, hvalues]
  | readNext =>
    cases hvalue : l.values[l.cursor]? with
    | none => rwa [nextValue_of_none hvalue]
    | some value =>
      rw [nextValue_of_some hvalue]
      exact (List.getElem?_eq_some_iff.mp hvalue).1
  | drawn source => exact hl

/-- Without such a removal, no calls lead the cursor out of a list. -/
theorem Made.cursor_le (h : Made (fun l op after => ¬ RemovesBehindReading l op after) l) :
    l.cursor ≤ l.length := by
  induction h with
  | new source => exact Nat.le_refl 0
  | called hl htaken hrun hremoval ihl ihtaken =>
    exact (becomes_run hrun).cursor_le ihl ihtaken hremoval

/-- What a removal behind the reading makes of a list. -/
theorem RemovesBehindReading.eq_of_becomes (h : RemovesBehindReading l op after)
    (hbecomes : Becomes l op arguments after) :
    after.cursor = l.cursor ∧ after.length + 1 = l.length := by
  cases hbecomes with
  | kept => exact absurd h.shorter (Nat.lt_irrefl _)
  | removed hop hi => exact ⟨rfl, List.length_eraseIdx_add_one hi⟩
  | _ => exact absurd h.removal (by decide)

/-- **A value that is added is read next**, once a list is read to its end: this is so for all lists
that calls make without removing a value from a list that is read to its end, and their cursor is
never beyond the end. Such a removal always leads it there, and then the value that is added is
passed over. -/
theorem appended_value_read_next
    (hl : Made (fun l op after => ¬ RemovesBehindReading l op after) l) :
    l.cursor ≤ l.length ∧
      (l.length ≤ l.cursor → ∀ value,
        l.results [(.addValue, [.text value]), (.nextValue, [])] =
          [.ok .nothing, .ok (.textOrUnset value)]) ∧
      ∀ op arguments after result, op.run l arguments = .ok (after, result) →
        RemovesBehindReading l op after →
          after.length < after.cursor ∧ ∀ value,
            after.results [(.addValue, [.text value]), (.nextValue, [])] =
              [.ok .nothing, .ok (.textOrUnset none)] := by
  have hcursor := hl.cursor_le
  refine ⟨hcursor, ?_, ?_⟩
  · intro hread value
    have hend : l.cursor - l.length = 0 := by omega
    simpa [hend] using results_addValue_nextValue hread [value]
  · intro op arguments after result hrun hremoval
    obtain ⟨hstays, hshorter⟩ := hremoval.eq_of_becomes (becomes_run hrun)
    have hread := hremoval.read
    refine ⟨by omega, ?_⟩
    intro value
    have hbeyond : after.cursor - after.length = 1 := by omega
    simpa [hbeyond] using results_addValue_nextValue (l := after) (by omega) [value]

/-- The list of one value, read to its end. -/
def readToItsEnd (source : Random.Source) : TextList :=
  { values := [some "a"], cursor := 1, source }

theorem made_readToItsEnd (source : Random.Source)
    {permitted : TextList → TextListOperation → TextList → Prop}
    (hadd : permitted { source } .addValue { values := [some "a"], source })
    (hnext : permitted { values := [some "a"], source } .nextValue (readToItsEnd source)) :
    Made permitted (readToItsEnd source) := by
  have hrun : addValue.run { source } [.text (some "a")] =
      .ok ({ values := [some "a"], source }, .nothing) := rfl
  have hread : TextListOperation.nextValue.run { values := [some "a"], source } [] =
      .ok (readToItsEnd source, .text "a") := rfl
  exact .called (.called (.new source) (by simp) hrun hadd) (by simp) hread hnext

/-- A value is read, and the next one is added and read. -/
theorem next_value_added_and_read :
    Made (fun l op after => ¬ RemovesBehindReading l op after) (readToItsEnd (.ofSeed 1)) ∧
      (readToItsEnd (.ofSeed 1)).length ≤ (readToItsEnd (.ofSeed 1)).cursor ∧
      (readToItsEnd (.ofSeed 1)).results [(.addValue, [.text (some "b")]), (.nextValue, [])] =
        [.ok .nothing, .ok (.text "b")] := by
  have hmade : Made (fun l op after => ¬ RemovesBehindReading l op after)
      (readToItsEnd (.ofSeed 1)) := by
    apply made_readToItsEnd
    · exact fun h => absurd h.removal (by decide)
    · exact fun h => absurd h.removal (by decide)
  exact ⟨hmade, Nat.le_refl 1, (appended_value_read_next hmade).2.1 (Nat.le_refl 1) (some "b")⟩

/-- If the value that was read is removed, the cursor is beyond the end, and the next value that is
added is not read. -/
theorem removal_hides_next_value :
    ¬ ∀ l : TextList, Made (fun _ _ _ => True) l →
      l.cursor ≤ l.length ∧ (l.length ≤ l.cursor → ∀ value,
        l.results [(.addValue, [.text value]), (.nextValue, [])] =
          [.ok .nothing, .ok (.textOrUnset value)]) := by
  intro h
  have hrun : removeValueAt.run (readToItsEnd (.ofSeed 1)) [.int 0] =
      .ok ({ cursor := 1, source := .ofSeed 1 }, .text "a") := rfl
  have hmade : Made (fun _ _ _ => True) { cursor := 1, source := .ofSeed 1 } :=
    .called (made_readToItsEnd (.ofSeed 1) trivial trivial) (by simp) hrun trivial
  exact absurd (h _ hmade).1 (Nat.not_succ_le_zero 0)

end JobScript.TextList
