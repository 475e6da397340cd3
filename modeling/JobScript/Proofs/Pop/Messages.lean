import JobScript.Proofs.Mail.Composition
import JobScript.Proofs.Pop.Lines
import Mathlib.Data.List.TakeWhile

/-!
# Messages Fetched

A message is sent as a status line, its lines, and a line that is a single dot. A whole message is
fetched line by line as it was sent, up to that dot. Its beginning is fetched by other rules: any
line with a dot in front ends it, and body lines with a plus in front are left out. The two agree
on the messages that have no such lines, and on no others.

## Architecture

- `commandStatus_of_accepts`, `listingStatus_of_accepts`, and the same `_of_refuses`: status lines
- `headerLines_messageOfLines`, `bodyLines_messageOfLines`: a message and its lines
- `retrieve_of_lines`, `top_of_lines`: what is fetched, and what is left unread
- `retrieve_gives_lines_as_sent`: a message from a server that doubles dots in front
- `exists_first_dotted`: where a listing is cut if a dot in front ends it
- `top_agrees_with_retrieve_iff`: when the two ways to fetch agree
-/

namespace JobScript

namespace Pop

/-! ## Section 1: Status lines -/

section Status

variable {line : String} (verb : String)

theorem not_isEmpty_of_startsWith {c : Char} (h : startsWith line c = true) :
    line.isEmpty = false := by
  cases hempty : line.isEmpty with
  | false => rfl
  | true =>
    obtain rfl := String.isEmpty_iff.mp hempty
    cases h

/-- A line has one first character. -/
theorem startsWith_of_other {c d : Char} (h : startsWith line c = true) (hne : c ≠ d) :
    startsWith line d = false := by
  unfold startsWith at h ⊢
  rw [beq_iff_eq] at h
  rw [h, beq_eq_false_iff_ne]
  simpa using hne

theorem commandStatus_of_accepts (h : startsWith line '+' = true) :
    commandStatus verb (some line) = .ok line := by
  simp only [commandStatus, not_isEmpty_of_startsWith h, h, if_true, Bool.false_eq_true, if_false]

theorem commandStatus_of_refuses (h : startsWith line '-' = true) :
    commandStatus verb (some line) = .error (errorResponse verb line) := by
  simp only [commandStatus, not_isEmpty_of_startsWith h, startsWith_of_other h (d := '+') (by decide),
    Bool.false_eq_true, if_false]

theorem listingStatus_of_accepts (h : startsWith line '+' = true) :
    listingStatus verb (some line) = .ok () := by
  simp only [listingStatus, not_isEmpty_of_startsWith h, h, if_true, Bool.false_eq_true, if_false]

theorem listingStatus_of_refuses (h : startsWith line '-' = true) :
    listingStatus verb (some line) = .error line := by
  simp only [listingStatus, not_isEmpty_of_startsWith h, startsWith_of_other h (d := '+') (by decide),
    Bool.false_eq_true, if_false]

theorem endsListing_of_accepts (h : startsWith line '+' = true) : endsListing line = false := by
  simp only [endsListing, not_isEmpty_of_startsWith h, startsWith_of_other h (d := '-') (by decide),
    startsWith_of_other h (d := '.') (by decide), Bool.or_false]

end Status

end Pop

/-! ## Section 2: Headers and body -/

namespace MailMessage

theorem lines_foldl_addHeaderLine (m : MailMessage) (headers : List String) :
    (headers.foldl addHeaderLine m).headerLines = m.headerLines ++ headers ∧
      (headers.foldl addHeaderLine m).bodyLines = m.bodyLines := by
  induction headers generalizing m with
  | nil => exact ⟨(List.append_nil _).symm, rfl⟩
  | cons line rest ih =>
    obtain ⟨hheaders, hbody⟩ := m.lines_addHeaderLine line
    obtain ⟨ihheaders, ihbody⟩ := ih (m.addHeaderLine line)
    refine ⟨?_, ihbody.trans hbody⟩
    rw [List.foldl_cons, ihheaders, hheaders, List.append_assoc, List.singleton_append]

end MailMessage

namespace Pop

/-- The lines before an empty one, and those after it. -/
theorem headerPart_append {headers : List String} (hheaders : ∀ h ∈ headers, h ≠ "")
    (body : List String) : headerPart (headers ++ "" :: body) = headers := by
  rw [headerPart, List.takeWhile_append_of_pos]
  · simp
  · intro h hmem
    simpa [String.isEmpty_iff] using hheaders h hmem

theorem bodyPart_append {headers : List String} (hheaders : ∀ h ∈ headers, h ≠ "")
    (body : List String) : bodyPart (headers ++ "" :: body) = body := by
  rw [bodyPart, List.dropWhile_append_of_pos]
  · simp
  · intro h hmem
    simpa [String.isEmpty_iff] using hheaders h hmem

theorem headerLines_messageOfLines (lines : List String) :
    (messageOfLines lines).headerLines = headerPart lines :=
  (MailMessage.lines_foldl_addHeaderLine {} (headerPart lines)).1

theorem bodyLines_messageOfLines (lines : List String) :
    (messageOfLines lines).bodyLines = bodyPart lines := by
  rw [messageOfLines, MailMessage.addBodyLines,
    (MailMessage.lines_foldl_addHeaderLine {} (headerPart lines)).2]
  rfl

/-! ## Section 3: Fetching -/

section Fetching

variable {link : Link} {rest : Bytes} {status closing : SentLine} {lines : List SentLine}

theorem isLine_retr (message : Int32) : IsLine ("retr " ++ Text.Decimal.ofInt32 message) :=
  IsLine.append (by decide) (isLine_ofInt32 message)

theorem isLine_top (message count : Int32) :
    IsLine ("top " ++ Text.Decimal.ofInt32 message ++ " " ++ Text.Decimal.ofInt32 count) := by
  have hmessage := IsLine.append (s := "top ") (by decide) (isLine_ofInt32 message)
  exact (hmessage.append (by decide)).append (isLine_ofInt32 count)

/-- A whole message is fetched up to the line that is a dot. -/
theorem retrieve_of_lines (message : Int32) (hwhole : link.broken = false)
    (haccepted : startsWith status.text '+' = true) (hlines : ∀ l ∈ lines, l.text ≠ ".")
    (hclosing : closing.text = ".")
    (hunread : link.unread ++ link.replies.headD [] =
      status.bytes ++ (SentLine.bytesOf lines ++ closing.bytes ++ rest)) :
    retrieve message link =
      ({ link.hear (Text.Utf8.write ("retr " ++ Text.Decimal.ofInt32 message)) with unread := rest },
        .ok ⟨messageOfLines (lines.map SentLine.text), none⟩) := by
  have hasked := askListing_of_lines "RETR" (· == ".") (isLine_retr message) hwhole hunread
    (listingStatus_of_accepts "RETR" haccepted)
    (fun l hl => beq_eq_false_iff_ne.mpr (hlines l hl)) (beq_iff_eq.mpr hclosing)
  rw [retrieve, hasked]

/-- The beginning of a message is fetched up to the first line with a dot in front. -/
theorem top_of_lines (message count : Int32) {first : SentLine} (hwhole : link.broken = false)
    (haccepted : startsWith status.text '+' = true)
    (hlines : ∀ l ∈ lines, startsWith l.text '.' = false) (hfirst : startsWith first.text '.' = true)
    (hunread : link.unread ++ link.replies.headD [] =
      status.bytes ++ (SentLine.bytesOf lines ++ first.bytes ++ rest)) :
    top message count link =
      ({ link.hear (Text.Utf8.write ("top " ++ Text.Decimal.ofInt32 message ++ " " ++
          Text.Decimal.ofInt32 count)) with unread := rest },
        .ok ⟨(bodyPart (lines.map SentLine.text)).filter (!startsWith · '+'), none⟩) := by
  have hasked := askListing_of_lines "TOP" (startsWith · '.') (isLine_top message count) hwhole
    hunread (listingStatus_of_accepts "TOP" haccepted) hlines hfirst
  simp only [top, hasked]

end Fetching

/-! ## Section 4: Messages as servers send them -/

/-- A line as it is sent inside a message: one with a dot in front gets one more. -/
def dotted (line : String) : String :=
  if startsWith line '.' then "." ++ line else line

/-- A single dot ends a message, so no line is sent as one. -/
theorem dotted_ne_dot (line : String) : dotted line ≠ "." := by
  unfold dotted
  split
  · rename_i hdot
    intro heq
    have hlength := congrArg String.length heq
    rw [String.length_append] at hlength
    obtain rfl : line = "" := String.length_eq_zero_iff.mp (Nat.add_left_cancel hlength)
    cases hdot
  · rename_i hdot
    rintro rfl
    exact hdot rfl

theorem dotted_eq_self_iff {line : String} : dotted line = line ↔ startsWith line '.' = false := by
  unfold dotted
  split
  · rename_i hdot
    rw [hdot]
    refine iff_of_false ?_ (by decide)
    intro heq
    have hlength := congrArg String.length heq
    rw [String.length_append] at hlength
    exact absurd hlength (Nat.ne_of_gt (Nat.lt_add_of_pos_left (by decide)))
  · rename_i hdot
    exact iff_of_true rfl (Bool.eq_false_iff.mpr hdot)

/-- The line of text that is sent for a line of a message. -/
def TextLine.dotted (l : TextLine) : TextLine where
  text := Pop.dotted l.text
  ending := l.ending
  isLine := by
    unfold Pop.dotted
    split
    · exact IsLine.append (s := ".") (by decide) l.isLine
    · exact l.isLine
  noReturn := by
    unfold Pop.dotted
    split
    · rename_i hdot
      rw [String.toList_append, List.getLast?_append]
      cases hlast : l.text.toList.getLast? with
      | some c => simpa [hlast] using l.noReturn
      | none => decide
    · exact l.noReturn

theorem map_dotted_eq_self_iff {lines : List String} :
    lines.map dotted = lines ↔ ∀ l ∈ lines, startsWith l '.' = false :=
  calc lines.map dotted = lines
      _ ↔ lines.map dotted = lines.map id := by rw [List.map_id]
      _ ↔ ∀ l ∈ lines, dotted l = id l := List.map_inj_left
      _ ↔ ∀ l ∈ lines, startsWith l '.' = false :=
        forall₂_congr fun _ _ => dotted_eq_self_iff

/-- **A message is fetched as it was sent**: headers and body are the lines between status line and
closing dot, and nothing is wrong. Dots that were doubled in front stay doubled, so the body is the
one that the server has exactly if no line of it has a dot in front. -/
theorem retrieve_gives_lines_as_sent (message : Int32) {link : Link}
    {status blank closing : TextLine} {headers body : List TextLine} {later : Bytes}
    (hwhole : link.broken = false) (hstatus : status.text = "+OK")
    (hheaders : ∀ h ∈ headers, h.text ≠ "" ∧ startsWith h.text '.' = false)
    (hblank : blank.text = "") (hclosing : closing.text = ".")
    (hunread : link.unread ++ link.replies.headD [] =
      TextLine.bytesOf (status :: (headers ++ blank :: body.map TextLine.dotted) ++ [closing]) ++
        later) :
    ∃ mail, (retrieve message link).2 = .ok ⟨mail, none⟩ ∧
      mail.headerLines = headers.map TextLine.text ∧
      mail.bodyLines = (body.map TextLine.text).map dotted ∧
      (mail.bodyLines = body.map TextLine.text ↔
        ∀ l ∈ body.map TextLine.text, startsWith l '.' = false) := by
  let lines := headers ++ blank :: body.map TextLine.dotted
  have htexts : lines.map TextLine.text =
      headers.map TextLine.text ++ "" :: (body.map TextLine.text).map dotted := by
    rw [List.map_append, List.map_cons, hblank, List.map_map, List.map_map]
    rfl
  have hnonempty : ∀ h ∈ headers.map TextLine.text, h ≠ "" := by
    intro h hmem
    obtain ⟨l, hl, rfl⟩ := List.mem_map.mp hmem
    exact (hheaders l hl).1
  -- No line but the closing one is a dot
  have hlines : ∀ l ∈ lines, l.text ≠ "." := by
    intro l hl
    rcases List.mem_append.mp hl with hheader | hrest
    · intro hdot
      exact absurd (hheaders l hheader).2 (by rw [hdot]; decide)
    · rcases List.mem_cons.mp hrest with rfl | hbody
      · rw [hblank]
        decide
      · obtain ⟨line, -, rfl⟩ := List.mem_map.mp hbody
        exact dotted_ne_dot line.text
  have hretrieved := retrieve_of_lines message hwhole
    (by rw [status.text_sent, hstatus]; decide)
    (TextLine.forall_text_sent (P := (· ≠ ".")) hlines) (closing.text_sent.trans hclosing)
    (hunread.trans (TextLine.bytesOf_listing status closing lines later))
  refine ⟨_, congrArg Prod.snd hretrieved, ?headers, ?body, ?same⟩
  case headers =>
    rw [headerLines_messageOfLines, TextLine.map_text_sent, htexts, headerPart_append hnonempty]
  case body =>
    rw [bodyLines_messageOfLines, TextLine.map_text_sent, htexts, bodyPart_append hnonempty]
  case same =>
    rw [bodyLines_messageOfLines, TextLine.map_text_sent, htexts, bodyPart_append hnonempty,
      map_dotted_eq_self_iff]

/-- A message with lines that begin with a dot, or are one, and the lines that are fetched. -/
theorem signature_fetched_with_doubled_dots :
    let headers : List TextLine := [{ text := "Subject: dots" }]
    let body : List TextLine := [{ text := "one" }, { text := ".two" }, { text := "." },
      { text := "" }, { text := "+three" }]
    let reply := TextLine.bytesOf (({ text := "+OK" } : TextLine) ::
      (headers ++ { text := "" } :: body.map TextLine.dotted) ++ [{ text := "." }])
    let link : Link := { unread := [], replies := [reply], ending := .close }
    (∀ h ∈ headers, h.text ≠ "" ∧ startsWith h.text '.' = false) ∧
      ∃ mail, (retrieve 1 link).2 = .ok ⟨mail, none⟩ ∧
        mail.headerLines = ["Subject: dots"] ∧
        mail.bodyLines = ["one", "..two", "..", "", "+three"] := by
  intro headers body reply link
  have hheaders : ∀ h ∈ headers, h.text ≠ "" ∧ startsWith h.text '.' = false := by decide
  have hunread : link.unread ++ link.replies.headD [] =
      TextLine.bytesOf (({ text := "+OK" } : TextLine) ::
        (headers ++ { text := "" } :: body.map TextLine.dotted) ++ [{ text := "." }]) ++ [] :=
    (List.append_nil reply).symm
  obtain ⟨mail, hmail, hheaderLines, hbodyLines, -⟩ :=
    retrieve_gives_lines_as_sent 1 rfl rfl hheaders rfl rfl hunread
  exact ⟨hheaders, mail, hmail, hheaderLines, hbodyLines⟩

/-- The body `.hidden` is sent with a doubled dot, and fetched with it. -/
theorem hidden_line_fetched_with_doubled_dot :
    let reply := TextLine.bytesOf (({ text := "+OK" } : TextLine) ::
      ([{ text := "Subject: dots" }] ++ { text := "" } ::
        [{ text := ".hidden" }].map TextLine.dotted) ++ [{ text := "." }])
    let link : Link := { unread := [], replies := [reply], ending := .close }
    reply = Text.Utf8.write "+OK\r\nSubject: dots\r\n\r\n..hidden\r\n.\r\n" ∧
      ((retrieve 1 link).2.toOption.map (·.value.bodyLines)) = some ["..hidden"] ∧
      ((retrieve 1 link).2.toOption.map (·.value.bodyLines)) ≠ some [".hidden"] := by
  decide +kernel

/-! ## Section 5: The two ways to fetch -/

section Agreement

variable {lines : List SentLine} {closing : SentLine}

/-- The line has no dot in front. -/
def undotted (l : SentLine) : Bool :=
  !startsWith l.text '.'

theorem undotted_iff {l : SentLine} : undotted l = true ↔ startsWith l.text '.' = false := by
  rw [undotted, Bool.not_eq_true']

/-- With the closing line there is a first line with a dot in front, and what comes after it. -/
theorem exists_first_dotted (lines : List SentLine)
    (hclosing : startsWith closing.text '.' = true) :
    ∃ first after, startsWith first.text '.' = true ∧
      (lines ++ [closing]).dropWhile undotted = first :: after ∧
      lines ++ [closing] = lines.takeWhile undotted ++ first :: after := by
  induction lines with
  | nil =>
    have hdotted : ¬undotted closing = true := by
      rw [undotted_iff, hclosing]
      decide
    exact ⟨closing, [], hclosing, List.dropWhile_cons_of_neg hdotted, rfl⟩
  | cons l lines ih =>
    by_cases hl : undotted l = true
    · obtain ⟨first, after, hfirst, hdrop, hsplit⟩ := ih
      refine ⟨first, after, hfirst, ?_, ?_⟩
      · rw [List.cons_append, List.dropWhile_cons_of_pos hl, hdrop]
      · rw [List.takeWhile_cons_of_pos hl, List.cons_append, List.cons_append, hsplit]
    · refine ⟨l, lines ++ [closing], ?_, ?_, ?_⟩
      · rw [undotted_iff, Bool.not_eq_false] at hl
        exact hl
      · rw [List.cons_append, List.dropWhile_cons_of_neg hl]
      · rw [List.takeWhile_cons_of_neg hl, List.cons_append, List.nil_append]

/-- Nothing comes after the first line with a dot in front if that is the closing line. -/
theorem tail_dropWhile_eq_nil_iff (hclosing : startsWith closing.text '.' = true) :
    ((lines ++ [closing]).dropWhile undotted).tail = [] ↔ ∀ l ∈ lines, undotted l = true := by
  constructor
  · intro hnil
    obtain ⟨first, after, -, hdrop, hsplit⟩ := exists_first_dotted lines hclosing
    rw [hdrop, List.tail_cons] at hnil
    subst hnil
    exact List.takeWhile_eq_self_iff.mp (List.append_inj' hsplit rfl).1.symm
  · intro hlines
    have hdotted : ¬undotted closing = true := by
      rw [undotted_iff, hclosing]
      decide
    rw [List.dropWhile_append_of_pos hlines, List.dropWhile_cons_of_neg hdotted, List.tail_cons]

/-- Lines have bytes. -/
theorem SentLine.bytesOf_eq_nil_iff : SentLine.bytesOf lines = [] ↔ lines = [] := by
  cases lines with
  | nil => exact iff_of_true rfl rfl
  | cons l lines =>
    refine iff_of_false ?_ (List.cons_ne_nil l lines)
    intro hnil
    exact List.append_ne_nil_of_right_ne_nil _ (List.cons_ne_nil _ _)
      (List.append_eq_nil_iff.mp hnil).1

/-- **The beginning of a message and the whole of it agree** on the body, and leave the same bytes
to later replies, exactly if no line of the message has a dot in front and no line of its body has a
plus in front. In general the beginning ends with the first line that has a dot in front, whatever
follows is left unread, and body lines with a plus in front are missing. -/
theorem top_agrees_with_retrieve_iff (message count : Int32) {link : Link} {status : SentLine}
    {later : Bytes} (hwhole : link.broken = false) (haccepted : startsWith status.text '+' = true)
    (hlines : ∀ l ∈ lines, l.text ≠ ".") (hclosing : closing.text = ".")
    (hunread : link.unread ++ link.replies.headD [] =
      status.bytes ++ (SentLine.bytesOf lines ++ closing.bytes ++ later)) :
    let retrieved := retrieve message link
    let topped := top message count link
    let body := bodyPart (lines.map SentLine.text)
    let beginning := (bodyPart ((lines.takeWhile undotted).map SentLine.text)).filter
      (!startsWith · '+')
    let left := ((lines ++ [closing]).dropWhile undotted).tail
    (∃ mail, retrieved.2 = .ok ⟨mail, none⟩ ∧ mail.bodyLines = body) ∧
      retrieved.1.unread = later ∧
      topped.2 = .ok ⟨beginning, none⟩ ∧ topped.1.unread = SentLine.bytesOf left ++ later ∧
      (beginning = body ∧ topped.1.unread = retrieved.1.unread ↔
        (∀ l ∈ lines, startsWith l.text '.' = false) ∧ ∀ l ∈ body, startsWith l '+' = false) := by
  intro retrieved topped body beginning left
  have hdot : startsWith closing.text '.' = true := by
    rw [hclosing]
    decide
  have hretrieved := retrieve_of_lines message hwhole haccepted hlines hclosing hunread
  have hretrievedUnread : retrieved.1.unread = later := congrArg (fun r => r.1.unread) hretrieved
  obtain ⟨first, after, hfirst, hdrop, hsplit⟩ := exists_first_dotted lines hdot
  have hleft : left = after := by rw [show left = _ from congrArg List.tail hdrop, List.tail_cons]
  -- The same bytes, cut at the first line with a dot in front
  have hcut : link.unread ++ link.replies.headD [] = status.bytes ++
      (SentLine.bytesOf (lines.takeWhile undotted) ++ first.bytes ++
        (SentLine.bytesOf left ++ later)) := by
    calc link.unread ++ link.replies.headD []
        _ = status.bytes ++ (SentLine.bytesOf (lines ++ [closing]) ++ later) := by
          rw [hunread, SentLine.bytesOf_concat]
        _ = _ := by
          rw [hsplit, hleft, SentLine.bytesOf_append, SentLine.bytesOf_cons]
          simp only [List.append_assoc]
  have htopped := top_of_lines message count hwhole haccepted
    (fun l hl => undotted_iff.mp (List.mem_takeWhile_imp hl)) hfirst hcut
  have htoppedUnread : topped.1.unread = SentLine.bytesOf left ++ later :=
    congrArg (fun r => r.1.unread) htopped
  refine ⟨⟨_, congrArg Prod.snd hretrieved, bodyLines_messageOfLines _⟩, hretrievedUnread,
    congrArg Prod.snd htopped, htoppedUnread, ?_⟩
  have hundotted : topped.1.unread = retrieved.1.unread ↔
      ∀ l ∈ lines, startsWith l.text '.' = false := by
    rw [htoppedUnread, hretrievedUnread, List.append_left_eq_self, SentLine.bytesOf_eq_nil_iff,
      tail_dropWhile_eq_nil_iff hdot]
    exact forall₂_congr fun _ _ => undotted_iff
  rw [hundotted, and_comm]
  refine and_congr_right ?_
  intro hnodots
  -- Without such a line, only pluses can make a difference
  have hall : lines.takeWhile undotted = lines :=
    List.takeWhile_eq_self_iff.mpr fun l hl => undotted_iff.mpr (hnodots l hl)
  simp only [beginning, body, hall, List.filter_eq_self, Bool.not_eq_true']

/-- A body with a plus and a dot in front of lines: its beginning has one line less before the dot,
and the line after the dot is left to the next reply. -/
theorem beginning_ends_at_dotted_line :
    let lines := [{ text := "Subject: dots" }, { text := "" }, { text := "one" },
      { text := "+two" }, { text := "..three" }, { text := "four" }].map TextLine.sent
    let status : TextLine := { text := "+OK" }
    let closing : TextLine := { text := "." }
    let reply := status.sent.bytes ++ (SentLine.bytesOf lines ++ closing.sent.bytes)
    let link : Link := { unread := [], replies := [reply], ending := .close }
    startsWith status.sent.text '+' = true ∧ (∀ l ∈ lines, l.text ≠ ".") ∧
      closing.sent.text = "." ∧
      (∃ mail, (retrieve 1 link).2 = .ok ⟨mail, none⟩ ∧
        mail.bodyLines = ["one", "+two", "..three", "four"]) ∧
      (retrieve 1 link).1.unread = [] ∧ (top 1 4 link).2 = .ok ⟨["one"], none⟩ ∧
      (top 1 4 link).1.unread = Text.Utf8.write "four\r\n.\r\n" := by
  intro lines status closing reply link
  have haccepted : startsWith status.sent.text '+' = true := by decide +kernel
  have hlines : ∀ l ∈ lines, l.text ≠ "." := by decide +kernel
  have hclosing : closing.sent.text = "." := closing.text_sent
  have hunread : link.unread ++ link.replies.headD [] =
      status.sent.bytes ++ (SentLine.bytesOf lines ++ closing.sent.bytes ++ []) := by
    rw [List.append_nil]
    rfl
  obtain ⟨⟨mail, hmail, hbody⟩, hall, htopped, hleft, -⟩ :=
    top_agrees_with_retrieve_iff 1 4 rfl haccepted hlines hclosing hunread
  exact ⟨haccepted, hlines, hclosing, ⟨mail, hmail, hbody.trans (by decide +kernel)⟩, hall,
    htopped.trans (by decide +kernel), hleft.trans (by decide +kernel)⟩

/-- One message, fetched in both ways: the beginning lacks a line with a plus in front and all lines
from the dot in front on, and the last of them is read as the reply to the next command. -/
theorem beginning_and_whole_disagree :
    let link : Link :=
      { unread := []
        replies :=
          [Text.Utf8.write "+OK\r\nSubject: dots\r\n\r\none\r\n+two\r\n..three\r\nfour\r\n.\r\n",
            Text.Utf8.write "+OK 1 20\r\n"]
        ending := .close }
    (retrieve 1 link).2.toOption.map (·.value.bodyLines) = some ["one", "+two", "..three", "four"] ∧
      (top 1 4 link).2.toOption.map Answer.value = some ["one"] ∧
      (stat (retrieve 1 link).1).2 = .ok ⟨1, none⟩ ∧
      (stat (top 1 4 link).1).2 = .ok ⟨-1, some (errorResponse "STAT" "four")⟩ := by
  decide +kernel

end Agreement

end Pop

end JobScript
