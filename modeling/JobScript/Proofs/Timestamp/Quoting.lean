import JobScript.Execution.Script
import JobScript.Proofs.Timestamp.Compilation

/-!
# Any Text Can Be Quoted

A text is quoted by a quote before it, a quote behind it, and two quotes for every quote in it. Read
as a pattern, this gives the text back. Quotes at the front of the text are read in pairs while no
quotes are open: only the one behind the last pair opens them. So a text of nothing but quotes never
opens any, and is written with one quote too many.

## Architecture

- `quoting`: the pattern that quotes a text; `content`: what it is read as
- `reads_quoting`: the tokens of the pattern
- `Reads.compile_eq`, `Formatter.CopiesText.join`: compiled, then written, the content
- `text_written_as_quoted`: written times, and the operation of scripts
-/

namespace JobScript.Timestamp

/-! ## Section 1: Quoted texts -/

/-- The pattern that quotes a text. -/
def quoting (text : String) : String :=
  String.ofList (quote :: (doubled text.toList ++ [quote]))

/-- What a quoted text is read as: the text, with one quote more if it has no other character. -/
def content (text : List Char) : List Char :=
  if text.all (· = quote) then quote :: text else text

theorem content_cons_quote (text : List Char) :
    content (quote :: text) = quote :: content text := by
  simp only [content, List.all_cons, decide_true, Bool.true_and]
  split <;> rfl

theorem content_cons_of_ne {c : Char} (hc : c ≠ quote) (text : List Char) :
    content (c :: text) = c :: text := by
  simp [content, hc]

theorem content_eq_self_iff {text : List Char} : content text = text ↔ ∃ c ∈ text, c ≠ quote := by
  unfold content
  split
  case isTrue hquotes =>
    -- One quote more is another text
    apply iff_of_false
    · exact List.cons_ne_self quote text
    · simpa using hquotes
  case isFalse hother =>
    apply iff_of_true rfl
    simpa using hother

/-- The tokens of a quoted text are the characters of its content. -/
theorem reads_quoting (text : List Char) :
    Reads (quote :: (doubled text ++ [quote])) ((content text).map .literal) .betweenTokens := by
  -- The quotes in front are read in pairs; the first other character stands in open quotes
  induction text with
  | nil => exact .pair .nil
  | cons c text ih =>
    by_cases hc : c = quote
    · rw [hc, doubled_cons_quote, content_cons_quote, List.map_cons]
      exact .pair ih
    · rw [content_cons_of_ne hc, ← List.append_nil ((c :: text).map Token.literal)]
      apply Reads.quoted
      · simp
      · simpa using hc
      · simp
      · exact .nil

/-! ## Section 2: Written texts -/

/-- A pattern without fault is compiled token by token. -/
theorem Reads.compile_eq {pattern : String} {tokens : List Token} {ending : PatternEnd}
    (h : Reads pattern.toList tokens ending) (hfault : faultOf tokens ending = none) :
    compile pattern = .ok (String.join (tokens.map Token.text)) := by
  have hfinds := h.finds
  rw [Finds, hfault] at hfinds
  obtain ⟨symbols, hsymbols, rfl⟩ := hfinds
  rw [compile, hsymbols]
  rfl

/-- Characters that stand for themselves are written one after the other. -/
theorem Formatter.CopiesText.join {format : Formatter} (h : format.CopiesText) (text : List Char)
    (t : LocalTime) :
    format (String.join ((text.map Token.literal).map Token.text)) t
      = some (String.ofList text) := by
  induction text with
  | nil => exact h.empty t
  | cons c text ih =>
    rw [List.map_cons, List.map_cons, String.join_cons, h.literal, ih, Option.map_some]
    congr 1
    apply String.toList_injective
    simp

theorem render_quoting {format : Formatter} (h : format.CopiesText) (text : String)
    (t : LocalTime) :
    render format (quoting text) t = .ok (String.ofList (content text.toList)) := by
  have hreads : Reads (quoting text).toList ((content text.toList).map .literal)
      .betweenTokens := by
    rw [quoting, String.toList_ofList]
    exact reads_quoting text.toList
  have hfault : faultOf ((content text.toList).map .literal) .betweenTokens = none := by
    simpa [faultOf] using faultOf_literals (content text.toList) [] .betweenTokens
  simp only [render, hreads.compile_eq hfault, h.join]

theorem render_quoting_eq_iff {format : Formatter} (h : format.CopiesText) (text : String)
    (t : LocalTime) :
    render format (quoting text) t = .ok text ↔ ∃ c ∈ text.toList, c ≠ quote := by
  rw [render_quoting h, Except.ok.injEq, ← content_eq_self_iff, ← String.toList_inj,
    String.toList_ofList]

/-- The time of day in a pattern of the script's choice. -/
theorem run_timestampAs (pattern : String) (source : Random.Source) (job : Job) (w : World) :
    ScriptOperation.timestampAs.run source [.text (some pattern)] job w
      = (job.timestamp w.now pattern).map fun written => (source, w, .text written) := by
  change (job.timestamp w.now pattern >>= fun written => pure (source, w, Result.text written)) = _
  cases job.timestamp w.now pattern <;> rfl

/-- **Any text can be quoted**: the pattern that quotes it is written as the text itself at every
time, exactly if the text has another character than quotes; so scripts get the text from the
operation that writes the time of day. -/
theorem text_written_as_quoted {format : Formatter} (hformat : format.CopiesText) (text : String) :
    (∀ t, render format (quoting text) t = .ok text ↔ ∃ c ∈ text.toList, c ≠ quote) ∧
      ∀ source job w,
        ScriptOperation.timestampAs.run source [.text (some (quoting text))] job w =
            .ok (source, w, .text text) ↔ ∃ c ∈ text.toList, c ≠ quote := by
  refine ⟨render_quoting_eq_iff hformat text, ?_⟩
  intro source job w
  rw [run_timestampAs, Job.timestamp,
    ← render_quoting_eq_iff documented_strftime.copiesText text (job.localTime w.now)]
  cases render strftime (quoting text) (job.localTime w.now) with
  | error cause => simp [Except.map]
  | ok written => simp [Except.map, Result.text]

/-- A text with quotes at both ends and in the middle, a percent sign before a letter, and a line
break. -/
theorem quoted_ends_written :
    strftime.CopiesText ∧
      render strftime "'''at 5 o''clock\n100%d'''" (LocalTime.ofUnix 32400000 0)
        = .ok "'at 5 o'clock\n100%d'" := by
  have hwritten := text_written_as_quoted documented_strftime.copiesText "'at 5 o'clock\n100%d'"
  refine ⟨documented_strftime.copiesText, (hwritten.1 _).mpr ?_⟩
  exact ⟨'a', by decide, by decide⟩

end JobScript.Timestamp
