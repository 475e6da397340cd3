import JobScript.Pop.Exchange
import JobScript.Proofs.Text.Utf8

/-!
# Lines Sent and Lines Read

What a server sends is a sequence of lines. A client that reads one line takes exactly the bytes
of that line and leaves those of the lines after it, and a line of text is read as the text it
was, however it ended. The other way, a command without line feeds is heard as one line.

## Architecture

- `SentLine`: the bytes of a line, and the text they are read as
- `TextLine`: a line of text with its ending, and `TextLine.text_sent`: it is read as its text
- `Link.readLine_of_line`, `Link.readUntil_of_lines`: reading one line, and a whole listing
- `Link.send_of_line`: a command that is one line
- `ask_of_line`, `askStatus_of_line`, `askListing_of_lines`: a command and what is read after it
-/

namespace JobScript.Pop

/-! ## Section 1: Sent lines -/

/-- A line as it is sent: bytes without a line feed, and then a line feed. -/
structure SentLine where
  content : Bytes
  noFeed : lineFeed ∉ content

namespace SentLine

def bytes (l : SentLine) : Bytes :=
  l.content ++ [lineFeed]

/-- The text that a client reads. -/
def text (l : SentLine) : String :=
  Text.Utf8.read (stripReturn l.content)

/-- The bytes of lines sent one after the other. -/
def bytesOf (lines : List SentLine) : Bytes :=
  lines.flatMap bytes

theorem bytesOf_cons (l : SentLine) (lines : List SentLine) :
    bytesOf (l :: lines) = l.bytes ++ bytesOf lines :=
  List.flatMap_cons

theorem bytesOf_append (before after : List SentLine) :
    bytesOf (before ++ after) = bytesOf before ++ bytesOf after :=
  List.flatMap_append

theorem bytesOf_concat (lines : List SentLine) (last : SentLine) :
    bytesOf (lines ++ [last]) = bytesOf lines ++ last.bytes := by
  rw [bytesOf_append, bytesOf_cons]
  exact congrArg (bytesOf lines ++ ·) (List.append_nil last.bytes)

end SentLine

theorem cutLine?_append {content : Bytes} (h : lineFeed ∉ content) (rest : Bytes) :
    cutLine? (content ++ lineFeed :: rest) = some (content, rest) := by
  induction content with
  | nil => exact if_pos rfl
  | cons byte content ih =>
    rw [List.mem_cons, not_or] at h
    obtain ⟨hbyte, hcontent⟩ := h
    rw [List.cons_append, cutLine?, if_neg (Ne.symm hbyte), ih hcontent]
    rfl

theorem cutLine?_bytes (l : SentLine) (rest : Bytes) :
    cutLine? (l.bytes ++ rest) = some (l.content, rest) := by
  rw [SentLine.bytes, List.append_assoc, List.singleton_append, cutLine?_append l.noFeed]

theorem completeLines_of_cut {bytes line after : Bytes} (hcut : cutLine? bytes = some (line, after)) :
    completeLines bytes = stripReturn line :: completeLines after := by
  rw [completeLines]
  split
  all_goals rename_i hcut'; cases hcut.symm.trans hcut'
  rfl

theorem completeLines_of_no_cut {bytes : Bytes} (hcut : cutLine? bytes = none) :
    completeLines bytes = [] := by
  rw [completeLines]
  split
  all_goals rename_i hcut'; cases hcut.symm.trans hcut'
  rfl

/-! ## Section 2: Lines of text -/

/-- How a line of text ends. -/
inductive LineEnding where
  | feed
  /-- A carriage return before the line feed -/
  | returnAndFeed
  deriving DecidableEq, Repr

/-- What stands between the text of a line and its line feed. -/
def LineEnding.beforeFeed : LineEnding → Bytes
  | .feed => []
  | .returnAndFeed => [carriageReturn]

/-- A text has no line feed, so it can be sent as one line. -/
def IsLine (text : String) : Prop :=
  '\n' ∉ text.toList

instance (text : String) : Decidable (IsLine text) :=
  inferInstanceAs (Decidable (¬_))

theorem IsLine.append {s t : String} (hs : IsLine s) (ht : IsLine t) : IsLine (s ++ t) := by
  rw [IsLine, String.toList_append, List.mem_append, not_or]
  exact ⟨hs, ht⟩

/-- Numbers are written with digits and a sign. -/
theorem isLine_ofInt32 (n : Int32) : IsLine (Text.Decimal.ofInt32 n) := by
  have hdigits (m : Nat) : '\n' ∉ (Nat.repr m).toList := by
    rw [Nat.repr, String.toList_ofList]
    intro hmem
    exact absurd (Nat.isDigit_of_mem_toDigits (by decide) (by decide) hmem) (by decide)
  unfold IsLine Text.Decimal.ofInt32
  cases n.toInt with
  | ofNat m => exact hdigits m
  | negSucc m => exact IsLine.append (s := "-") (by decide) (hdigits (m + 1))

/-- A line of text. A carriage return at the end of the text would count as part of the ending. -/
structure TextLine where
  text : String
  ending : LineEnding := .returnAndFeed
  isLine : IsLine text := by decide
  noReturn : text.toList.getLast? ≠ some '\r' := by decide

theorem lineFeed_not_mem_write {text : String} (h : IsLine text) :
    lineFeed ∉ Text.Utf8.write text :=
  fun hmem => h (Text.Utf8.mem_of_mem_write (by decide) hmem)

namespace TextLine

/-- The bytes a line of text is sent as. -/
def sent (l : TextLine) : SentLine where
  content := Text.Utf8.write l.text ++ l.ending.beforeFeed
  noFeed := by
    rw [List.mem_append, not_or]
    refine ⟨lineFeed_not_mem_write l.isLine, ?_⟩
    cases l.ending <;> decide

/-- **A line of text is read as its text**, whatever characters it has and however it ends. -/
theorem text_sent (l : TextLine) : l.sent.text = l.text := by
  have hstrip : stripReturn (Text.Utf8.write l.text ++ l.ending.beforeFeed) =
      Text.Utf8.write l.text := by
    unfold stripReturn
    cases l.ending with
    | returnAndFeed => rw [LineEnding.beforeFeed, List.getLast?_concat, if_pos rfl,
        List.dropLast_concat]
    | feed =>
      -- Nothing is stripped from the text itself
      rw [LineEnding.beforeFeed, List.append_nil]
      refine if_neg ?_
      intro hlast
      exact l.noReturn (Text.Utf8.getLast?_of_getLast?_write (by decide) hlast)
  rw [SentLine.text, sent, hstrip, Text.Utf8.read_write]

theorem map_text_sent (lines : List TextLine) :
    (lines.map sent).map SentLine.text = lines.map text := by
  rw [List.map_map]
  exact List.map_congr_left fun l _ => l.text_sent

/-- What holds of the texts of lines holds of them as they are read. -/
theorem forall_text_sent {P : String → Prop} {lines : List TextLine}
    (h : ∀ l ∈ lines, P l.text) : ∀ l ∈ lines.map sent, P l.text := by
  intro l hl
  obtain ⟨line, hmem, rfl⟩ := List.mem_map.mp hl
  rw [line.text_sent]
  exact h line hmem

/-- The bytes of lines of text sent one after the other. -/
def bytesOf (lines : List TextLine) : Bytes :=
  SentLine.bytesOf (lines.map sent)

theorem bytesOf_concat (lines : List TextLine) (last : TextLine) :
    bytesOf (lines ++ [last]) = SentLine.bytesOf (lines.map sent) ++ last.sent.bytes := by
  rw [bytesOf, List.map_append, List.map_singleton, SentLine.bytesOf_concat]

/-- A listing begins with its status line and ends with its closing line. -/
theorem bytesOf_listing (status closing : TextLine) (lines : List TextLine) (rest : Bytes) :
    bytesOf (status :: lines ++ [closing]) ++ rest =
      status.sent.bytes ++
        (SentLine.bytesOf (lines.map sent) ++ closing.sent.bytes ++ rest) := by
  rw [bytesOf_concat, List.map_cons, SentLine.bytesOf_cons]
  simp only [List.append_assoc]

end TextLine

/-! ## Section 3: Reading -/

namespace Link

variable {link : Link} {rest : Bytes}

/-- Reading takes one line. -/
theorem readLine_of_line {l : SentLine} (hunread : link.unread = l.bytes ++ rest) :
    link.readLine = ({ link with unread := rest }, .ok (some l.text)) := by
  rw [readLine, hunread, cutLine?_bytes]
  rfl

/-- A line that ends the reply ends the reading. -/
theorem readUntil_of_last {isLast : String → Bool} {line : String} {link' : Link}
    (hread : link.readLine = (link', .ok (some line))) (hlast : isLast line = true) :
    link.readUntil isLast = (link', [], .line line) := by
  rw [readUntil]
  split
  all_goals rename_i hread'; cases hread.symm.trans hread'
  rw [if_pos hlast]

/-- Any other line is kept, and the reading goes on. -/
theorem readUntil_of_more {isLast : String → Bool} {line : String} {link' : Link}
    (hread : link.readLine = (link', .ok (some line))) (hmore : isLast line = false) :
    link.readUntil isLast =
      ((link'.readUntil isLast).1, line :: (link'.readUntil isLast).2.1,
        (link'.readUntil isLast).2.2) := by
  rw [readUntil]
  split
  all_goals rename_i hread'; cases hread.symm.trans hread'
  rw [hmore]
  rfl

/-- Reading a listing takes its lines and the one that ends it, and nothing more. -/
theorem readUntil_of_lines {isLast : String → Bool} {lines : List SentLine} {last : SentLine}
    (hlines : ∀ l ∈ lines, isLast l.text = false) (hlast : isLast last.text = true)
    (hunread : link.unread = SentLine.bytesOf lines ++ last.bytes ++ rest) :
    link.readUntil isLast =
      ({ link with unread := rest }, lines.map SentLine.text, .line last.text) := by
  induction lines generalizing link with
  | nil => exact readUntil_of_last (readLine_of_line hunread) hlast
  | cons l lines ih =>
    have hread : link.readLine =
        ({ link with unread := SentLine.bytesOf lines ++ last.bytes ++ rest },
          .ok (some l.text)) := by
      apply readLine_of_line
      rw [hunread, SentLine.bytesOf_cons, List.append_assoc, List.append_assoc, List.append_assoc]
    rw [readUntil_of_more hread (hlines l List.mem_cons_self),
      ih (fun l' hl' => hlines l' (List.mem_cons_of_mem l hl')) rfl]
    rfl

/-! ## Section 4: Commands -/

/-- A command without line feeds is one line. -/
theorem completeLines_commandBytes {command : String} (hline : IsLine command) :
    completeLines (commandBytes command) = [Text.Utf8.write command] := by
  have hreturn : lineFeed ∉ Text.Utf8.write command ++ [carriageReturn] := by
    rw [List.mem_append, not_or]
    exact ⟨lineFeed_not_mem_write hline, by decide⟩
  have hcut : cutLine? (commandBytes command) =
      some (Text.Utf8.write command ++ [carriageReturn], []) := by
    rw [← cutLine?_append hreturn [], commandBytes, List.append_assoc]
    rfl
  rw [completeLines_of_cut hcut, stripReturn, List.getLast?_concat, if_pos rfl,
    List.dropLast_concat, completeLines_of_no_cut rfl]

/-- A command without line feeds is heard as one line. -/
theorem send_of_line {command : String} (hline : IsLine command) (hwhole : link.broken = false) :
    link.send command = (link.hear (Text.Utf8.write command), .ok ()) := by
  rw [send, hwhole, completeLines_commandBytes hline]
  rfl

/-- What there is to read after a command line: what was left unread, and the next reply. -/
theorem unread_hear (hwhole : link.broken = false) (line : Bytes) :
    (link.hear line).unread = link.unread ++ link.replies.headD [] := by
  unfold hear
  rw [hwhole]
  cases link.replies with
  | nil => exact (List.append_nil _).symm
  | cons reply replies => rfl

end Link

variable {link : Link} {rest : Bytes} {command : String}

/-- A command, and the line that is read after it. -/
theorem ask_of_line {status : SentLine} (hline : IsLine command) (hwhole : link.broken = false)
    (hunread : link.unread ++ link.replies.headD [] = status.bytes ++ rest) :
    ask command link =
      ({ link.hear (Text.Utf8.write command) with unread := rest }, .ok (some status.text)) := by
  have hheard := (link.unread_hear hwhole (Text.Utf8.write command)).trans hunread
  rw [ask, Link.send_of_line hline hwhole]
  exact Link.readLine_of_line hheard

theorem askStatus_of_line {status : SentLine} (verb : String) (hline : IsLine command)
    (hwhole : link.broken = false)
    (hunread : link.unread ++ link.replies.headD [] = status.bytes ++ rest) :
    askStatus command verb link =
      ({ link.hear (Text.Utf8.write command) with unread := rest },
        .ok (commandStatus verb (some status.text))) := by
  rw [askStatus, ask_of_line hline hwhole hunread]

/-- A refused listing is its status line. -/
theorem askListing_of_refusal {status : SentLine} {reason : String} (verb : String)
    (isLast : String → Bool) (hline : IsLine command) (hwhole : link.broken = false)
    (hunread : link.unread ++ link.replies.headD [] = status.bytes ++ rest)
    (hrefused : listingStatus verb (some status.text) = .error reason) :
    askListing command verb isLast link =
      ({ link.hear (Text.Utf8.write command) with unread := rest }, .ok (.error reason)) := by
  rw [askListing, ask_of_line hline hwhole hunread]
  simp only [hrefused]

/-- A listing is taken from the stream up to the line that ends it. -/
theorem askListing_of_lines {status last : SentLine} {lines : List SentLine} (verb : String)
    (isLast : String → Bool) (hline : IsLine command) (hwhole : link.broken = false)
    (hunread : link.unread ++ link.replies.headD [] =
      status.bytes ++ (SentLine.bytesOf lines ++ last.bytes ++ rest))
    (haccepted : listingStatus verb (some status.text) = .ok ())
    (hlines : ∀ l ∈ lines, isLast l.text = false) (hlast : isLast last.text = true) :
    askListing command verb isLast link =
      ({ link.hear (Text.Utf8.write command) with unread := rest },
        .ok (.ok (lines.map SentLine.text, .line last.text))) := by
  rw [askListing, ask_of_line hline hwhole hunread]
  simp only [haccepted]
  rw [Link.readUntil_of_lines hlines hlast rfl]

end JobScript.Pop
