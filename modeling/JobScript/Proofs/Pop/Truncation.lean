import JobScript.Proofs.Pop.Connections
import JobScript.Proofs.Pop.Messages

/-!
# Replies Cut Short

A reply with lines is read up to a line that ends it. If the stream of the server ends before that,
the lines read so far are given. The list of messages and whole messages then leave a reason, the
beginning of a message does not. A reply that is read up to its end leaves no reason, unless the
list of messages ends with a line that is empty or has a minus in front.

## Architecture

- `streamLines`, `Link.lines`: the lines there are to read
- `StopsAt`, `Link.readUntil_of_stopsAt`: where the reading of a reply stops
- `Link.nextLines`, `Link.endsNext`: the stream after the next command
- `askListing_of_stopsAt`, `list_of_stopsAt`, `retrieve_of_stopsAt`, `top_of_stopsAt`: the exchanges
- `cut_short_replies_leave_reasons`: the calls
-/

namespace JobScript

namespace Pop

/-! ## Section 1: Lines of a stream -/

/-- The lines of what a server has sent. What follows the last line feed is a line once the stream
has ended. -/
def streamLines (ended : Bool) (bytes : Bytes) : List String :=
  match _h : cutLine? bytes with
  | some (line, after) => Text.Utf8.read (stripReturn line) :: streamLines ended after
  | none => if ended && !bytes.isEmpty then [Text.Utf8.read (stripReturn bytes)] else []
  termination_by bytes.length
  decreasing_by exact length_lt_of_cutLine? _h

section Streams

variable {ended : Bool} {bytes line after : Bytes}

theorem streamLines_of_cut (hcut : cutLine? bytes = some (line, after)) :
    streamLines ended bytes = Text.Utf8.read (stripReturn line) :: streamLines ended after := by
  rw [streamLines]
  split
  all_goals rename_i hcut'; cases hcut.symm.trans hcut'
  rfl

theorem streamLines_of_no_cut (hcut : cutLine? bytes = none) :
    streamLines ended bytes =
      if ended && !bytes.isEmpty then [Text.Utf8.read (stripReturn bytes)] else [] := by
  rw [streamLines]
  split
  all_goals rename_i hcut'; cases hcut.symm.trans hcut'
  rfl

theorem streamLines_nil (ended : Bool) : streamLines ended [] = [] := by
  rw [streamLines_of_no_cut rfl, List.isEmpty_nil, Bool.not_true, Bool.and_false]
  rfl

end Streams

namespace Link

/-- The stream of the server ends after what is unread, and the link still carries it. -/
def isEnded (link : Link) : Bool :=
  !link.broken && link.hasEnded

/-- The lines there are to read. -/
def lines (link : Link) : List String :=
  streamLines link.isEnded link.unread

variable {link : Link} {text : String} {rest : List String}

theorem readLine_of_lines_nil (hended : link.isEnded = true) (hlines : link.lines = []) :
    link.readLine = (link, .ok none) := by
  have hparts := hended
  rw [isEnded, Bool.and_eq_true, Bool.not_eq_true'] at hparts
  obtain ⟨hwhole, hclosed⟩ := hparts
  cases hcut : cutLine? link.unread with
  | some cut =>
    rw [lines, streamLines_of_cut hcut] at hlines
    cases hlines
  | none =>
    rw [lines, streamLines_of_no_cut hcut, hended, Bool.true_and] at hlines
    have hempty : link.unread.isEmpty = true := by
      by_contra hnot
      rw [Bool.eq_false_iff.mpr hnot] at hlines
      cases hlines
    simp only [readLine, hcut, hwhole, hclosed, hempty, Bool.false_eq_true, if_false, if_true]

/-- Reading takes the first of the lines and leaves the others. -/
theorem readLine_of_lines_cons (hlines : link.lines = text :: rest) :
    ∃ link', link.readLine = (link', .ok (some text)) ∧ link'.lines = rest ∧
      link'.isEnded = link.isEnded := by
  cases hcut : cutLine? link.unread with
  | some cut =>
    rw [lines, streamLines_of_cut hcut] at hlines
    cases hlines
    exact ⟨{ link with unread := cut.2 }, by rw [readLine, hcut], rfl, rfl⟩
  | none =>
    -- The last line of a stream that has ended needs no line feed
    rw [lines, streamLines_of_no_cut hcut] at hlines
    split at hlines
    · rename_i hlast
      cases hlines
      rw [Bool.and_eq_true, isEnded, Bool.and_eq_true, Bool.not_eq_true', Bool.not_eq_true']
        at hlast
      obtain ⟨⟨hwhole, hclosed⟩, hmore⟩ := hlast
      refine ⟨{ link with unread := [] }, ?_, streamLines_nil _, rfl⟩
      simp only [readLine, hcut, hwhole, hclosed, hmore, Bool.false_eq_true, if_false, if_true]
    · cases hlines

theorem readUntil_of_endOfInput {isLast : String → Bool} {link' : Link}
    (hread : link.readLine = (link', .ok none)) :
    link.readUntil isLast = (link', [], .endOfInput) := by
  rw [readUntil]
  split
  all_goals rename_i hread'; cases hread.symm.trans hread'
  rfl

end Link

/-! ## Section 2: Where reading stops -/

/-- The lines of a reply that are kept, and what ends it: the first line that can, or else the end
of the stream. -/
inductive StopsAt (isLast : String → Bool) (ended : Bool) :
    List String → List String → Link.Stop → Prop
  | endOfInput (hended : ended = true) : StopsAt isLast ended [] [] .endOfInput
  | line {last : String} {rest : List String} (hlast : isLast last = true) :
      StopsAt isLast ended (last :: rest) [] (.line last)
  | more {first : String} {rest kept : List String} {stop : Link.Stop}
      (hmore : isLast first = false) (hrest : StopsAt isLast ended rest kept stop) :
      StopsAt isLast ended (first :: rest) (first :: kept) stop

section Stops

variable {isLast : String → Bool} {ended : Bool} {lines kept : List String} {stop : Link.Stop}

theorem exists_stopsAt (h : ended = true ∨ ∃ l ∈ lines, isLast l = true) :
    ∃ kept stop, StopsAt isLast ended lines kept stop := by
  induction lines with
  | nil =>
    have hended : ended = true := h.resolve_right (by simp)
    exact ⟨[], .endOfInput, .endOfInput hended⟩
  | cons first rest ih =>
    cases hfirst : isLast first with
    | true => exact ⟨[], .line first, .line hfirst⟩
    | false =>
      obtain ⟨kept, stop, hrest⟩ := ih (by simpa [hfirst] using h)
      exact ⟨first :: kept, stop, .more hfirst hrest⟩

/-- A reply ends with the first of the lines that can end it, or with the stream. -/
theorem StopsAt.stop_cases (h : StopsAt isLast ended lines kept stop) :
    (∃ last, lines.find? isLast = some last ∧ stop = .line last) ∨
      lines.find? isLast = none ∧ stop = .endOfInput := by
  induction h with
  | endOfInput hended => exact .inr ⟨rfl, rfl⟩
  | line hlast => exact .inl ⟨_, List.find?_cons_of_pos hlast, rfl⟩
  | more hmore hrest ih =>
    rw [List.find?_cons_of_neg (by simp [hmore])]
    exact ih

/-- **Reading a reply** keeps its lines up to where it stops. -/
theorem Link.readUntil_of_stopsAt {link : Link}
    (h : StopsAt isLast link.isEnded link.lines kept stop) :
    ∃ link', link.readUntil isLast = (link', kept, stop) := by
  generalize hlines : link.lines = lines at h
  generalize hended : link.isEnded = ended at h
  -- Each line that is kept is one read, and the link after it has the lines that are left
  induction h generalizing link with
  | endOfInput hend =>
    exact ⟨link, readUntil_of_endOfInput (readLine_of_lines_nil (hended.trans hend) hlines)⟩
  | line hlast =>
    obtain ⟨next, hread, -, -⟩ := readLine_of_lines_cons hlines
    exact ⟨next, readUntil_of_last hread hlast⟩
  | more hmore hrest ih =>
    obtain ⟨next, hread, hnext, hsame⟩ := readLine_of_lines_cons hlines
    obtain ⟨link', huntil⟩ := ih hnext (hsame.trans hended)
    exact ⟨link', by rw [readUntil_of_more hread hmore, huntil]⟩

end Stops

/-! ## Section 3: Exchanges -/

namespace Link

/-- The stream of the server ends with the next reply. -/
def endsNext (link : Link) : Bool :=
  link.ending = .close && link.replies.tail.isEmpty

/-- The lines there are to read after the next command. -/
def nextLines (link : Link) : List String :=
  streamLines link.endsNext (link.unread ++ link.replies.headD [])

variable {link : Link}

theorem isEnded_hear (hwhole : link.broken = false) (line : Bytes) :
    (link.hear line).isEnded = link.endsNext := by
  unfold hear
  rw [hwhole]
  cases hreplies : link.replies with
  | nil => cases hending : link.ending <;> simp [isEnded, hasEnded, endsNext, hreplies, hending]
  | cons reply replies => simp [isEnded, hasEnded, endsNext, hreplies]

theorem lines_hear (hwhole : link.broken = false) (line : Bytes) :
    (link.hear line).lines = link.nextLines := by
  rw [lines, isEnded_hear hwhole, unread_hear hwhole, nextLines]

end Link

section Exchanges

variable {link : Link} {status : String} {lines kept : List String} {stop : Link.Stop}

/-- A listing that is accepted is read up to where it stops. -/
theorem askListing_of_stopsAt {command : String} (verb : String) {isLast : String → Bool}
    (hline : IsLine command) (hwhole : link.broken = false)
    (hlines : link.nextLines = status :: lines) (haccepted : startsWith status '+' = true)
    (hstop : StopsAt isLast link.endsNext lines kept stop) :
    ∃ link', askListing command verb isLast link = (link', .ok (.ok (kept, stop))) := by
  have hheard := (link.lines_hear hwhole (Text.Utf8.write command)).trans hlines
  obtain ⟨read, hread, hrest, hended⟩ := Link.readLine_of_lines_cons hheard
  rw [Link.isEnded_hear hwhole] at hended
  rw [← hended, ← hrest] at hstop
  obtain ⟨link', huntil⟩ := Link.readUntil_of_stopsAt hstop
  have hask : ask command link = (read, .ok (some status)) := by
    simp only [ask, Link.send_of_line hline hwhole, hread]
  refine ⟨link', ?_⟩
  simp only [askListing, hask, listingStatus_of_accepts verb haccepted, huntil]
  rcases hstop.stop_cases with ⟨last, -, rfl⟩ | ⟨-, rfl⟩ <;> rfl

/-- A whole message leaves a reason exactly if no line of the reply is a dot. -/
theorem retrieve_of_stopsAt (message : Int32) (hwhole : link.broken = false)
    (hlines : link.nextLines = status :: lines) (haccepted : startsWith status '+' = true)
    (hstop : StopsAt (· == ".") link.endsNext lines kept stop) :
    ∃ link' reason, retrieve message link = (link', .ok ⟨messageOfLines kept, reason⟩) ∧
      (reason = none ↔ "." ∈ lines) := by
  obtain ⟨link', hasked⟩ :=
    askListing_of_stopsAt "RETR" (isLine_retr message) hwhole hlines haccepted hstop
  rcases hstop.stop_cases with ⟨last, hfind, rfl⟩ | ⟨hfind, rfl⟩
  · refine ⟨link', none, by simp only [retrieve, hasked], iff_of_true rfl ?_⟩
    have hdot := List.find?_some (p := (· == ".")) hfind
    obtain rfl : last = "." := beq_iff_eq.mp hdot
    exact List.mem_of_find?_eq_some hfind
  · refine ⟨link', some (endOfInput "RETR"), by simp only [retrieve, hasked],
      iff_of_false (Option.some_ne_none _) ?_⟩
    intro hdot
    exact List.find?_eq_none.mp hfind "." hdot rfl

/-- The beginning of a message leaves no reason, wherever the reply stops. -/
theorem top_of_stopsAt (message count : Int32) (hwhole : link.broken = false)
    (hlines : link.nextLines = status :: lines) (haccepted : startsWith status '+' = true)
    (hstop : StopsAt (startsWith · '.') link.endsNext lines kept stop) :
    ∃ link', top message count link =
      (link', .ok ⟨(bodyPart kept).filter (!startsWith · '+'), none⟩) := by
  obtain ⟨link', hasked⟩ :=
    askListing_of_stopsAt "TOP" (isLine_top message count) hwhole hlines haccepted hstop
  exact ⟨link', by simp only [top, hasked]⟩

/-- A line that ends the list of messages is no failure exactly if it has a dot in front. -/
theorem listingFault?_eq_none_iff {last : String} (hlast : endsListing last = true) :
    listingFault? last = none ↔ startsWith last '.' = true := by
  unfold listingFault?
  cases hempty : last.isEmpty with
  | true =>
    obtain rfl := String.isEmpty_iff.mp hempty
    decide
  | false =>
    cases hminus : startsWith last '-' with
    | true => simp [startsWith_of_other hminus (by decide : '-' ≠ '.')]
    | false => simpa [endsListing, hempty, hminus] using hlast

/-- The list of messages leaves no reason exactly if the first line that ends it has a dot in
front. -/
theorem list_of_stopsAt (hwhole : link.broken = false) (hlines : link.nextLines = status :: lines)
    (haccepted : startsWith status '+' = true)
    (hstop : StopsAt endsListing link.endsNext lines kept stop) :
    ∃ link' reason, list link =
        (link', .ok ⟨(status :: kept).filter (!startsWith · '+'), reason⟩) ∧
      (reason = none ↔ (lines.find? endsListing).any (startsWith · '.') = true) := by
  have hheard := (link.lines_hear hwhole (Text.Utf8.write "list")).trans hlines
  -- The status line is one of the lines that are read
  have hread : StopsAt endsListing (link.hear (Text.Utf8.write "list")).isEnded
      (link.hear (Text.Utf8.write "list")).lines (status :: kept) stop := by
    rw [hheard, Link.isEnded_hear hwhole]
    exact .more (endsListing_of_accepts haccepted) hstop
  obtain ⟨link', huntil⟩ := Link.readUntil_of_stopsAt hread
  have hsend : link.send "list" = (link.hear (Text.Utf8.write "list"), .ok ()) :=
    Link.send_of_line (by decide) hwhole
  rcases hstop.stop_cases with ⟨last, hfind, rfl⟩ | ⟨hfind, rfl⟩
  · refine ⟨link', listingFault? last, by simp only [list, hsend, huntil], ?_⟩
    rw [hfind, Option.any_some]
    exact listingFault?_eq_none_iff (List.find?_some hfind)
  · refine ⟨link', some (endOfInput "LIST"), by simp only [list, hsend, huntil], ?_⟩
    rw [hfind]
    exact iff_of_false (Option.some_ne_none _) Bool.false_ne_true

end Exchanges

end Pop

/-! ## Section 4: Calls -/

open Pop

namespace PopSession

variable {s : PopSession} {w : World} {id : ConnectionId} {link : Link} {status : String}
  {lines : List String}

/-- **Replies cut short leave reasons**, except for the beginning of a message. After a status line
that accepts, a call gives what was read so far if the stream of the server ends, and what was read
up to its end if the reply has one. The list of messages then leaves no reason exactly if the first
line that ends it has a dot in front, a whole message exactly if the reply has the line that is a
dot, and the beginning of a message never leaves a reason. -/
theorem cut_short_replies_leave_reasons (message count : Int32)
    (hconnection : s.connection = some id) (hlink : w.network.link? id = some link)
    (hwhole : link.broken = false)
    (hlines : link.nextLines = status :: lines) (haccepted : startsWith status '+' = true) :
    let listed := PopOperation.list.run s [] w
    let retrieved := PopOperation.retrieve.run s [.int message] w
    let topped := PopOperation.top.run s [.int message, .int count] w
    ((link.endsNext = true ∨ ∃ l ∈ lines, endsListing l = true) →
        (∃ texts, listed.result = .ok (.list texts)) ∧
          (listed.target.failureReason = none ↔
            (lines.find? endsListing).any (startsWith · '.') = true)) ∧
      ((link.endsNext = true ∨ "." ∈ lines) →
        (∃ mail, retrieved.result = .ok (.value (.mailMessage mail))) ∧
          (retrieved.target.failureReason = none ↔ "." ∈ lines)) ∧
      ((link.endsNext = true ∨ ∃ l ∈ lines, startsWith l '.' = true) →
        (∃ body, topped.result = .ok (.list body)) ∧ topped.target.failureReason = none) := by
  intro listed retrieved topped
  refine ⟨?listed, ?retrieved, ?topped⟩
  case listed =>
    intro hends
    obtain ⟨kept, stop, hstop⟩ := exists_stopsAt hends
    obtain ⟨link', reason, hlist, hreason⟩ := list_of_stopsAt hwhole hlines haccepted hstop
    have hlisted : listed = _ := converseOutcome_of_link hconnection hlink hlist
    rw [hlisted]
    exact ⟨⟨_, rfl⟩, hreason⟩
  case retrieved =>
    intro hends
    have hdot : link.endsNext = true ∨ ∃ l ∈ lines, (l == ".") = true := by simpa using hends
    obtain ⟨kept, stop, hstop⟩ := exists_stopsAt hdot
    obtain ⟨link', reason, hretrieve, hreason⟩ :=
      retrieve_of_stopsAt message hwhole hlines haccepted hstop
    have hretrieved : retrieved = _ := converseOutcome_of_link hconnection hlink hretrieve
    rw [hretrieved]
    exact ⟨⟨_, rfl⟩, hreason⟩
  case topped =>
    intro hends
    obtain ⟨kept, stop, hstop⟩ := exists_stopsAt hends
    obtain ⟨link', htop⟩ := top_of_stopsAt message count hwhole hlines haccepted hstop
    have htopped : topped = _ := converseOutcome_of_link hconnection hlink htop
    rw [htopped]
    exact ⟨⟨_, rfl⟩, rfl⟩

/-- A reply cut short inside a line: the list and the message leave reasons, the beginning of the
message leaves none. -/
theorem reply_cut_inside_line :
    let link : Link :=
      { unread := [], replies := [Text.Utf8.write "+OK\r\n1 120\r\n2 2"], ending := .close }
    let s : PopSession := { connection := some 0, failureReason := some "Not connected" }
    let w : World := { network := { connections := [{ server := 0, link }] } }
    (s.connection = some 0 ∧ w.network.link? 0 = some link ∧ link.broken = false ∧
      link.endsNext = true ∧ link.nextLines = ["+OK", "1 120", "2 2"] ∧
      startsWith "+OK" '+' = true) ∧
      (PopOperation.list.run s [] w).target.failureReason ≠ none ∧
      (PopOperation.retrieve.run s [.int 1] w).target.failureReason ≠ none ∧
      (PopOperation.top.run s [.int 1, .int 5] w).target.failureReason = none := by
  intro link s w
  have hends : link.endsNext = true := by decide
  have hlines : link.nextLines = ["+OK", "1 120", "2 2"] := by decide +kernel
  have haccepted : startsWith "+OK" '+' = true := by decide
  obtain ⟨hlisted, hretrieved, htopped⟩ :=
    cut_short_replies_leave_reasons (s := s) (w := w) 1 5 rfl rfl rfl hlines haccepted
  refine ⟨⟨rfl, rfl, rfl, hends, hlines, haccepted⟩, ?_, ?_, (htopped (.inl hends)).2⟩
  · intro hnone
    exact absurd ((hlisted (.inl hends)).2.mp hnone) (by decide)
  · intro hnone
    exact absurd ((hretrieved (.inl hends)).2.mp hnone) (by decide)

/-- The beginning of a message is cut short, and nothing is said about it. -/
theorem beginning_cut_short_unnoticed :
    let link : Link :=
      { unread := [], replies := [Text.Utf8.write "+OK\r\nSubject: hi\r\n\r\nfirst\r\n"]
        ending := .close }
    let s : PopSession := { connection := some 0 }
    let w : World := { network := { connections := [{ server := 0, link }] } }
    link.endsNext = true ∧ link.nextLines = ["+OK", "Subject: hi", "", "first"] ∧
      (top 1 5 link).2 = .ok ⟨["first"], none⟩ ∧
      (PopOperation.top.run s [.int 1, .int 5] w).target.failureReason = none := by
  decide +kernel

end PopSession

end JobScript
