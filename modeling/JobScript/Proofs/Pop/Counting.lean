import JobScript.Proofs.Pop.Turns
import JobScript.Proofs.Text.Segments

/-!
# The Number of Messages

A server announces how many messages there are in its status line, as the second of at least three
words. A session gives that number without a reason, and `-1` with one if there is none. The number
is not looked at any further, so a negative one is given as it stands.

## Architecture

- `Announces`, `messageCount?_eq_some_iff`: a status line and the number in it
- `stat_cases`: the exchange
- `PopSession.HearsCount`, `PopSession.stat_run_cases`: the call
- `PopSession.stat_gives_count_or_reason`: what the value tells
-/

namespace JobScript

open Pop

/-! ## Section 1: Announcements -/

namespace Pop

/-- A status line announces a number: it accepts, and the number is the second of at least three
words between single blanks. -/
def Announces (line : String) (n : Int32) : Prop :=
  startsWith line '+' = true ∧ ∃ word count rest : List Char, ' ' ∉ word ∧ ' ' ∉ count ∧
    line.toList = word ++ ' ' :: (count ++ ' ' :: rest) ∧
    Text.Decimal.int32? (String.ofList count) = some n

theorem messageCount?_eq_some_iff {line : String} {n : Int32} :
    messageCount? line = some n ↔
      ∃ word count rest : List Char, ' ' ∉ word ∧ ' ' ∉ count ∧
        line.toList = word ++ ' ' :: (count ++ ' ' :: rest) ∧
        Text.Decimal.int32? (String.ofList count) = some n := by
  have hcount {word count rest : List Char} (hword : ' ' ∉ word) (hcount : ' ' ∉ count)
      (hline : line.toList = word ++ ' ' :: (count ++ ' ' :: rest)) :
      messageCount? line = Text.Decimal.int32? (String.ofList count) := by
    obtain ⟨first, others, hrest⟩ :=
      List.exists_cons_of_ne_nil (Text.segments_ne_nil [' '] rest)
    rw [messageCount?, hline, Text.segments_append_cons hword, Text.segments_append_cons hcount,
      hrest]
  constructor
  · intro hsome
    -- Without two blanks there are not three words
    by_cases hblank : ' ' ∈ line.toList
    · obtain ⟨word, tail, hline, hword⟩ := List.eq_append_cons_of_mem hblank
      by_cases hsecond : ' ' ∈ tail
      · obtain ⟨count, rest, rfl, hnot⟩ := List.eq_append_cons_of_mem hsecond
        exact ⟨word, count, rest, hword, hnot, hline, (hcount hword hnot hline).symm.trans hsome⟩
      · rw [messageCount?, hline, Text.segments_append_cons hword,
          Text.segments_of_not_mem hsecond] at hsome
        cases hsome
    · rw [messageCount?, Text.segments_of_not_mem hblank] at hsome
      cases hsome
  · rintro ⟨word, count, rest, hword, hnot, hline, hn⟩
    rw [hcount hword hnot hline, hn]

/-- Asking for the number of messages breaks the link, or it is a turn: either its line announces a
number, or there is a reason why not. -/
theorem stat_cases (link : Link) :
    ((∃ last error, stat link = (last, .error error)) ∧
        ∀ line last, ¬link.Takes [⟨"stat", line⟩] last) ∨
      ∃ last line, link.Takes [⟨"stat", line⟩] last ∧
        ((∃ text n, line = some text ∧ Announces text n ∧ stat link = (last, .ok ⟨n, none⟩)) ∨
          ∃ reason, (∀ text n, line = some text → ¬Announces text n) ∧
            stat link = (last, .ok ⟨-1, some reason⟩)) := by
  rcases askStatus_cases link "stat" "STAT" with
    ⟨last, error, hasked⟩ | ⟨last, line, htakes, hasked⟩
  · refine .inl ⟨⟨last, error, by simp only [stat, hasked]⟩, ?_⟩
    intro line last' htakes
    cases hasked.symm.trans (askStatus_of_takes "STAT" htakes)
  refine .inr ⟨last, line, htakes, ?_⟩
  -- The line is judged twice: by its first character, and by the words in it
  cases haccepts : accepts line with
  | false =>
    obtain ⟨reason, hstatus⟩ := commandStatus_of_not_accepted "STAT" haccepts
    rw [hstatus] at hasked
    refine .inr ⟨reason, ?_, by simp only [stat, hasked]⟩
    rintro text n rfl ⟨hplus, -⟩
    exact Bool.false_ne_true (haccepts.symm.trans hplus)
  | true =>
    obtain ⟨text, rfl, hplus, hstatus⟩ := commandStatus_of_accepted "STAT" haccepts
    rw [hstatus] at hasked
    cases hcount : messageCount? text with
    | some n =>
      exact .inl ⟨text, n, rfl, ⟨hplus, messageCount?_eq_some_iff.mp hcount⟩,
        by simp only [stat, hasked, hcount]⟩
    | none =>
      refine .inr ⟨"Malformed STAT response:  " ++ text, ?_, by simp only [stat, hasked, hcount]⟩
      rintro _ n ⟨⟩ ⟨-, hannounced⟩
      cases hcount.symm.trans (messageCount?_eq_some_iff.mpr hannounced)

end Pop

/-! ## Section 2: Calls -/

namespace PopSession

/-- The session asks for the number of messages, and the reply announces one. -/
def HearsCount (s : PopSession) (net : Network) (n : Int32) : Prop :=
  ∃ line after, s.Takes net [⟨"stat", some line⟩] after ∧ Announces line n

section Counts

variable {s : PopSession} {net net' : Network} {line : Option String}

/-- One command gets one line. -/
theorem Takes.line_unique {command : String} {line' : Option String}
    (h : s.Takes net [⟨command, line⟩] net') {after : Network}
    (h' : s.Takes net [⟨command, line'⟩] after) : line = line' := by
  cases h with
  | connected hconnection hlink htakes =>
    cases h' with
    | connected hconnection' hlink' htakes' =>
      cases hconnection.symm.trans hconnection'
      cases hlink.symm.trans hlink'
      cases (ask_eq_ok_iff.mpr htakes).symm.trans (ask_eq_ok_iff.mpr htakes')
      rfl

/-- Without a connection nothing is heard. -/
theorem not_takes_of_unconnected {turn : Turn} (hlink : s.link? net = none) :
    ¬s.Takes net [turn] net' := by
  intro htakes
  cases htakes with
  | connected hconnection hopen htakes =>
    cases hlink.symm.trans (Option.bind_eq_some_iff.mpr ⟨_, hconnection, hopen⟩)

end Counts

theorem stat_run_of_link {s : PopSession} {w : World} {arguments : List Value} {id : ConnectionId}
    {link last : Link} {answer : Answer Int32} (hconnection : s.connection = some id)
    (hlink : w.network.link? id = some link) (hstat : stat link = (last, .ok answer)) :
    PopOperation.stat.run s arguments w =
      ⟨{ s with failureReason := answer.reason },
        { w with network := w.network.updateLink id last }, .ok (.int answer.value)⟩ :=
  converseOutcome_of_link hconnection hlink hstat

/-- A call that asks for the number of messages breaks the connection, gives the number that was
announced, or gives `-1` and a reason. -/
theorem stat_run_cases (s : PopSession) (w : World) (arguments : List Value) :
    let outcome := PopOperation.stat.run s arguments w
    ((∃ cause, outcome.result = .error cause) ∧ s.isConnected w.network = true ∧
        ∀ line after, ¬s.Takes w.network [⟨"stat", line⟩] after) ∨
      (∃ n, s.HearsCount w.network n ∧ outcome.result = .ok (.int n) ∧
        outcome.target.failureReason = none) ∨
      (∀ n, ¬s.HearsCount w.network n) ∧ outcome.result = .ok (.int (-1)) ∧
        outcome.target.failureReason ≠ none := by
  intro outcome
  cases hlink : s.link? w.network with
  | none =>
    have hrun : outcome = _ := converseOutcome_of_unconnected hlink
    refine .inr (.inr ⟨?_, ?_⟩)
    · rintro n ⟨line, after, htakes, -⟩
      exact not_takes_of_unconnected hlink htakes
    · rw [hrun]
      exact ⟨rfl, Option.some_ne_none _⟩
  | some link =>
    obtain ⟨id, hconnection, hopen⟩ := Option.bind_eq_some_iff.mp hlink
    rcases stat_cases link with ⟨⟨last, error, hstat⟩, hbroken⟩ | ⟨last, line, htakes, hgiven⟩
    · have hrun : outcome = _ := converseOutcome_of_broken hconnection hopen hstat
      refine .inl ⟨⟨_, congrArg Outcome.result hrun⟩, isConnected_of_link hconnection hopen, ?_⟩
      intro line after htakes
      obtain ⟨last', htaken⟩ := htakes.of_link hconnection hopen
      exact hbroken line last' htaken
    have hheard := Takes.connected hconnection hopen htakes
    rcases hgiven with ⟨text, n, rfl, hannounces, hstat⟩ | ⟨reason, hnone, hstat⟩
    · have hrun : outcome = _ := stat_run_of_link hconnection hopen hstat
      rw [hrun]
      exact .inr (.inl ⟨n, ⟨text, _, hheard, hannounces⟩, rfl, rfl⟩)
    · have hrun : outcome = _ := stat_run_of_link hconnection hopen hstat
      rw [hrun]
      refine .inr (.inr ⟨?_, rfl, Option.some_ne_none reason⟩)
      rintro n ⟨text, after, htakes', hannounces⟩
      exact hnone text n (hheard.line_unique htakes') hannounces

/-- **The number of messages, or a reason**: a call without a reason gives the number that the
server announced, negative or not, and a call with one gives `-1`. So the value alone tells a
failure exactly if no negative number is announced. There is a result without a connection, and
whenever the reply can be read. -/
theorem stat_gives_count_or_reason (s : PopSession) (w : World) (arguments : List Value) :
    let outcome := PopOperation.stat.run s arguments w
    let reason := outcome.target.failureReason
    ((s.isConnected w.network = true → ∃ line after, s.Takes w.network [⟨"stat", line⟩] after) →
        ∃ result, outcome.result = .ok result) ∧
      ∀ result, outcome.result = .ok result → ∃ n, result = .int n ∧
        (reason = none ↔ s.HearsCount w.network n) ∧ (reason ≠ none → n = -1) ∧
        ((0 ≤ n ∧ reason = none ∨ n = -1 ∧ reason ≠ none) ↔
          ¬(s.HearsCount w.network n ∧ n < 0)) := by
  intro outcome reason
  rcases s.stat_run_cases w arguments with
    ⟨⟨cause, herror⟩, hconnected, hbroken⟩ | ⟨n, hheard, hresult, hreason⟩ |
      ⟨hunheard, hresult, hreason⟩
  · refine ⟨?_, ?_⟩
    · intro htakes
      obtain ⟨line, after, htaken⟩ := htakes hconnected
      exact absurd htaken (hbroken line after)
    · intro result hresult
      cases herror.symm.trans hresult
  · refine ⟨fun _ => ⟨_, hresult⟩, ?_⟩
    intro result hgiven
    cases hresult.symm.trans hgiven
    refine ⟨n, rfl, iff_of_true hreason hheard, fun hleft => absurd hreason hleft, ?_⟩
    constructor
    · rintro (⟨hle, -⟩ | ⟨-, hleft⟩) ⟨-, hlt⟩
      · exact Int32.not_le.mpr hlt hle
      · exact hleft hreason
    · intro hnot
      exact .inl ⟨Int32.not_lt.mp fun hlt => hnot ⟨hheard, hlt⟩, hreason⟩
  · refine ⟨fun _ => ⟨_, hresult⟩, ?_⟩
    intro result hgiven
    cases hresult.symm.trans hgiven
    refine ⟨-1, rfl, iff_of_false hreason (hunheard _), fun _ => rfl, ?_⟩
    exact iff_of_true (.inr ⟨rfl, hreason⟩) fun h => hunheard _ h.1

/-- A number announced between other words, and given by a session that had failed before. -/
theorem announced_count_given :
    let link : Link :=
      { unread := [], replies := [Text.Utf8.write "+OK +2 320 new\r\n"], ending := .close }
    let s : PopSession := { connection := some 0, failureReason := some "Not connected" }
    let w : World := { network := { connections := [{ server := 0, link }] } }
    let outcome := PopOperation.stat.run s [] w
    (∃ after, s.Takes w.network [⟨"stat", some "+OK +2 320 new"⟩] after) ∧
      outcome.result = .ok (.int 2) ∧ outcome.target.failureReason = none ∧
      s.HearsCount w.network 2 := by
  intro link s w outcome
  have hasked : ask "stat" link = ((ask "stat" link).1, .ok (some "+OK +2 320 new")) := by
    decide +kernel
  have htakes : s.Takes w.network [⟨"stat", some "+OK +2 320 new"⟩] _ :=
    .connected rfl rfl (ask_eq_ok_iff.mp hasked)
  have hstat : stat link = ((stat link).1, .ok ⟨2, none⟩) := by decide +kernel
  obtain ⟨hgives, hall⟩ := stat_gives_count_or_reason s w []
  obtain ⟨result, hresult⟩ := hgives fun _ => ⟨_, _, htakes⟩
  have hlink : w.network.link? 0 = some link := rfl
  have houtcome : outcome = _ := stat_run_of_link rfl hlink hstat
  have hreason : outcome.target.failureReason = none := by rw [houtcome]
  obtain ⟨n, rfl, hheard, -, -⟩ := hall result hresult
  cases hresult.symm.trans (congrArg Outcome.result houtcome)
  exact ⟨⟨_, htakes⟩, hresult, hreason, hheard.mp hreason⟩

/-- Announced numbers that are negative are given without a reason, and one of them looks like a
failure. -/
theorem negative_counts_given :
    let link : Link :=
      { unread := []
        replies := [Text.Utf8.write "+OK -5 10\r\n", Text.Utf8.write "+OK -1 0\r\n"]
        ending := .close }
    let s : PopSession := { connection := some 0 }
    let w : World := { network := { connections := [{ server := 0, link }] } }
    let first := PopOperation.stat.run s [] w
    let second := PopOperation.stat.run first.target [] first.world
    (first.result = .ok (.int (-5)) ∧ first.target.failureReason = none) ∧
      second.result = .ok (.int (-1)) ∧ second.target.failureReason = none := by
  intro link s w first second
  have hfirst : stat link = ((stat link).1, .ok ⟨-5, none⟩) := by decide +kernel
  have hsecond : stat (stat link).1 = ((stat (stat link).1).1, .ok ⟨-1, none⟩) := by decide +kernel
  have hopen : w.network.link? 0 = some link := rfl
  have hfirst' : first = _ := stat_run_of_link rfl hopen hfirst
  have hlink : first.world.network.link? 0 = some (stat link).1 := by rw [hfirst']; rfl
  have hconnection : first.target.connection = some 0 := by rw [hfirst']
  have hsecond' : second = _ := stat_run_of_link hconnection hlink hsecond
  exact ⟨⟨congrArg Outcome.result hfirst', by rw [hfirst']⟩,
    congrArg Outcome.result hsecond', by rw [hsecond']⟩

end PopSession

end JobScript
