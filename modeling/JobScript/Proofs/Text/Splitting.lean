import JobScript.Execution
import JobScript.Proofs.Lists.Reading
import JobScript.Proofs.Text.Segments

/-!
# Texts Taken Apart

A text that is split gives a list of its segments, unread. From its first value on, the list is read
segment by segment, and unset behind the last one.

## Architecture

- `run_splitAt`: the operation as the segments of the text
- `SplitsInto`: how a text, a delimiter and the lines between the cuts belong together
- `split_loses_nothing`: all results of splitting
-/

namespace JobScript.TextOperation

open Text (InTurn)

theorem run_splitAt (receiver delimiter : Option String) :
    splitAt.run receiver [.text delimiter] =
      .ok (receiver, .list
        ((Text.segments (delimiter.getD "").toList (receiver.getD "").toList).map
          String.ofList)) := rfl

/-- The lines are what the text has between the places of a delimiter that is not empty. -/
structure SplitsInto (text delimiter : String) (lines : List String) : Prop where
  joined : delimiter.intercalate lines = text
  none_left (line : String) : line ∈ lines → ¬ delimiter.toList <:+: line.toList
  exists_cuts : ∃ places, InTurn delimiter.toList text.toList 0 places
  length_eq (places : List Nat) : InTurn delimiter.toList text.toList 0 places →
    lines.length = places.length + 1

theorem splitsInto_segments {delimiter : String} (hdelimiter : delimiter ≠ "") (text : String) :
    SplitsInto text delimiter
      ((Text.segments delimiter.toList text.toList).map String.ofList) := by
  have hchars : delimiter.toList ≠ [] := by simpa using hdelimiter
  refine ⟨?joined, ?none_left, ?exists_cuts, ?length_eq⟩
  case joined =>
    apply String.toList_inj.mp
    rw [String.toList_intercalate, List.map_map]
    simpa [Function.comp_def] using Text.intercalate_segments hchars text.toList
  case none_left =>
    intro line hline
    obtain ⟨segment, hsegment, rfl⟩ := List.mem_map.mp hline
    rw [String.toList_ofList]
    exact Text.not_infix_of_mem_segments hchars hsegment
  case exists_cuts =>
    obtain ⟨places, hplaces, -⟩ := Text.exists_inTurn hchars (Nat.zero_le text.toList.length)
    exact ⟨places, hplaces⟩
  case length_eq =>
    intro places hplaces
    rw [List.length_map, Text.length_segments hchars hplaces]

/-- **Splitting loses nothing**: a text that is split gives lines and stays as it is. Together with
the delimiter the lines make up the text, none of them has the delimiter in it, and there is one
more of them than places at which the text is cut. With an empty or unset delimiter, the text is the
only line. Splitting at tabs is splitting at a tab. The lines are a new list, whose cursor stands on
the first of them: read from there or from its first value on, it gives the lines in order, and then
unset. -/
theorem split_loses_nothing (receiver delimiter : Option String) :
    splitAtTabs.run receiver [] = splitAt.run receiver [.text (some "\t")] ∧
    ∃ lines, splitAt.run receiver [.text delimiter] = .ok (receiver, .list lines) ∧
      (delimiter.getD "" ≠ "" → SplitsInto (receiver.getD "") (delimiter.getD "") lines) ∧
      (delimiter.getD "" = "" → lines = [receiver.getD ""]) ∧
      ∀ job w, ∃ l w', (Result.list lines).settle job w = (some (.textList l), w') ∧
        l.values = lines.map some ∧ l.cursor = 0 ∧
        ∀ n, l.results (List.replicate n (.nextValue, [])) =
            (List.range n).map (fun i => .ok (.textOrUnset lines[i]?)) ∧
          l.results ((.firstValue, []) :: List.replicate n (.nextValue, [])) =
            (List.range (n + 1)).map fun i => .ok (.textOrUnset lines[i]?) := by
  refine ⟨rfl, _, run_splitAt receiver delimiter, ?split, ?whole, ?read⟩
  case split => exact fun hdelimiter => splitsInto_segments hdelimiter _
  case whole =>
    intro hempty
    simp [hempty, Text.segments]
  case read =>
    intro job w
    refine ⟨_, _, rfl, rfl, rfl, ?_⟩
    intro n
    rw [TextList.results_nextValue, TextList.results_firstValue]
    have hvalue (lines : List String) (i : Nat) : (lines.map some).getD i none = lines[i]? := by
      rw [List.getD_eq_getElem?_getD, List.getElem?_map]
      cases lines[i]? <;> rfl
    simp only [TextList.ofLines, Nat.zero_add, hvalue, and_self]

/-- Of two places that overlap, only the first one is a cut. -/
theorem overlapping_places_cut_once :
    "aa" ≠ "" ∧ InTurn "aa".toList "aaab".toList 0 [0] ∧
      ∃ lines, splitAt.run (some "aaab") [.text (some "aa")] = .ok (some "aaab", .list lines) ∧
        "aa".intercalate lines = "aaab" ∧ lines.length = 2 := by
  have hdelimiter : "aa" ≠ "" := by decide
  have hplaces : InTurn "aa".toList "aaab".toList 0 [0] := by
    refine .next ⟨⟨le_rfl, Text.occursAt_iff.mp rfl⟩, fun i hi => hi.1⟩ (.done ?_)
    intro i hi hoccurs
    -- Behind the cut there is room in one place only
    have hroom := hoccurs.add_length_le
    have htwo : i = 2 := by
      simp at hi hroom
      omega
    subst htwo
    exact absurd (Text.occursAt_iff.mpr hoccurs) (by decide)
  obtain ⟨-, lines, hlines, hsplits, -, -⟩ := split_loses_nothing (some "aaab") (some "aa")
  have hsplit := hsplits hdelimiter
  exact ⟨hdelimiter, hplaces, lines, hlines, hsplit.joined, hsplit.length_eq [0] hplaces⟩

end JobScript.TextOperation
