import JobScript.Proofs.Pop.Connections
import JobScript.Proofs.Pop.Messages

/-!
# Calls in Step with Their Server

A server answers every command line with one reply. A call that reads exactly the replies to its
own commands leaves the session where the next call expects it, so by induction a whole sequence of
calls stays in step: every call decodes its own replies, and those only.

## Architecture

- `Status`, `Listing`: replies of one line, and replies with lines
- `Dialogue`: a call and the replies to its commands; what it gives is a function of these
- `Link.Ready`, `Link.told`: a link on which everything was read, and that link some commands later
- `askStatus_of_ready`, `askListing_of_ready_refusal`, `askListing_of_ready_lines`: one command
- `Dialogue.run_of_ready`: one call
- `Dialogue.runAll_of_ready`, `Dialogue.calls_in_lockstep`: sequences of calls
-/

namespace JobScript

namespace Pop

/-! ## Section 1: Replies -/

/-- A status line accepts a command or refuses it. -/
structure Status extends TextLine where
  isStatus : startsWith text '+' = true ∨ startsWith text '-' = true := by decide

namespace Status

def accepts (s : Status) : Bool :=
  startsWith s.text '+'

theorem refuses_of_not_accepts {s : Status} (h : s.accepts = false) :
    startsWith s.text '-' = true :=
  s.isStatus.resolve_left (Bool.eq_false_iff.mp h)

/-- Why a command failed that got this status, if it did. -/
def reason (verb : String) (s : Status) : Option String :=
  if s.accepts then none else some (errorResponse verb s.text)

end Status

/-- The reply to a command that asks for lines: a refusal, or the lines between a status line and a
line that is a dot. -/
inductive Listing (Allowed : String → Prop) where
  | refused (status : Status) (hrefused : status.accepts = false)
  | listed (status : Status) (haccepted : status.accepts = true) (lines : List TextLine)
      (hlines : ∀ l ∈ lines, Allowed l.text) (closing : TextLine) (hclosing : closing.text = ".")

namespace Listing

variable {Allowed : String → Prop}

/-- All lines of the reply, in order. -/
def reply : Listing Allowed → List TextLine
  | .refused status _ => [status.toTextLine]
  | .listed status _ lines _ closing _ => status.toTextLine :: lines ++ [closing]

/-- The lines that were asked for. -/
def texts : Listing Allowed → List String
  | .refused _ _ => []
  | .listed _ _ lines _ _ _ => lines.map TextLine.text

/-- The status line of a refusal. -/
def refusal? : Listing Allowed → Option String
  | .refused status _ => some status.text
  | .listed _ _ _ _ _ _ => none

end Listing

/-- A line that stands in a list of messages. -/
def IsListed (line : String) : Prop :=
  line ≠ "" ∧ startsWith line '+' = false ∧ startsWith line '-' = false ∧
    startsWith line '.' = false

instance (line : String) : Decidable (IsListed line) :=
  inferInstanceAs (Decidable (_ ∧ _))

/-- Lines are split at the first empty one; without an empty line, all of them are headers. -/
inductive SplitsInto : List String → List String → List String → Prop
  | atBlank {headers : List String} (body : List String) (hheaders : "" ∉ headers) :
      SplitsInto (headers ++ "" :: body) headers body
  | headersOnly {headers : List String} (hheaders : "" ∉ headers) : SplitsInto headers headers []

/-- A message has the lines it is made of: those before the first empty one are its headers, those
after it are its body. -/
theorem splitsInto_messageOfLines (lines : List String) :
    SplitsInto lines (messageOfLines lines).headerLines (messageOfLines lines).bodyLines := by
  rw [headerLines_messageOfLines, bodyLines_messageOfLines]
  by_cases hblank : "" ∈ lines
  · obtain ⟨headers, body, rfl, hheaders⟩ := List.eq_append_cons_of_mem hblank
    have hnonempty : ∀ h ∈ headers, h ≠ "" := fun h hmem => ne_of_mem_of_not_mem hmem hheaders
    rw [headerPart_append hnonempty, bodyPart_append hnonempty]
    exact .atBlank body hheaders
  · have hnonempty : ∀ l ∈ lines, (!l.isEmpty) = true := by
      intro l hl
      simpa [String.isEmpty_iff] using ne_of_mem_of_not_mem hl hblank
    rw [headerPart, List.takeWhile_eq_self_iff.mpr hnonempty, bodyPart,
      List.dropWhile_eq_nil_iff.mpr hnonempty]
    exact .headersOnly hblank

/-! ## Section 2: Calls and their replies -/

/-- A call of a session, and the reply to each of its commands. -/
inductive Dialogue where
  /-- The user is refused, and the password is not sent -/
  | userRefused (user password : Option String) (huser : IsLine (user.getD ""))
      (status : Status) (hrefused : status.accepts = false)
  | authenticate (user password : Option String) (huser : IsLine (user.getD ""))
      (hpassword : IsLine (password.getD "")) (named : Status) (haccepted : named.accepts = true)
      (status : Status)
  | delete (message : Int32) (status : Status)
  | list (listing : Listing IsListed)
  | noop (status : Status)
  | retrieve (message : Int32) (listing : Listing (· ≠ "."))
  | stat (status : Status)

namespace Dialogue

def operation : Dialogue → PopOperation
  | .userRefused .. | .authenticate .. => .authenticate
  | .delete .. => .delete
  | .list .. => .list
  | .noop .. => .noop
  | .retrieve .. => .retrieve
  | .stat .. => .stat

def arguments : Dialogue → List Value
  | .userRefused user password .. | .authenticate user password .. =>
    [.text user, .text password]
  | .delete message _ | .retrieve message _ => [.int message]
  | .list _ | .noop _ | .stat _ => []

/-- The command lines of the call, each with the reply to it. -/
def exchanges : Dialogue → List (String × List TextLine)
  | .userRefused user _ _ status _ => [("user " ++ user.getD "", [status.toTextLine])]
  | .authenticate user password _ _ named _ status =>
    [("user " ++ user.getD "", [named.toTextLine]),
      ("pass " ++ password.getD "", [status.toTextLine])]
  | .delete message status => [("dele " ++ Text.Decimal.ofInt32 message, [status.toTextLine])]
  | .list listing => [("list", listing.reply)]
  | .noop status => [("noop", [status.toTextLine])]
  | .retrieve message listing => [("retr " ++ Text.Decimal.ofInt32 message, listing.reply)]
  | .stat status => [("stat", [status.toTextLine])]

def commands (d : Dialogue) : List String :=
  d.exchanges.map Prod.fst

/-- The replies as the server sends them. -/
def plan (d : Dialogue) : List Bytes :=
  d.exchanges.map fun exchange => TextLine.bytesOf exchange.2

/-- The lines that a reply lists after its status line. -/
def listed : Dialogue → List String
  | .list listing => listing.texts
  | .retrieve _ listing => listing.texts
  | _ => []

/-- What the call gives. -/
def result : Dialogue → Result
  | .userRefused .. => .boolean false
  | .authenticate _ _ _ _ _ _ status | .delete _ status => .boolean status.accepts
  | .list listing => .list listing.texts
  | .noop _ => .nothing
  | .retrieve _ listing => .value (.mailMessage (messageOfLines listing.texts))
  | .stat status =>
    .int (if status.accepts then (messageCount? status.text).getD (-1) else -1)

/-- Why the result is a failure, if it is one. -/
def reason : Dialogue → Option String
  | .userRefused _ _ _ status _ => status.reason "USER"
  | .authenticate _ _ _ _ _ _ status => status.reason "PASS"
  | .delete _ status => status.reason "DELE"
  | .list listing => listing.refusal?.map (errorResponse "LIST")
  | .noop _ => none
  -- A refused message leaves the refusal itself as the reason
  | .retrieve _ listing => listing.refusal?
  | .stat status =>
    if status.accepts && (messageCount? status.text).isNone then
      some ("Malformed STAT response:  " ++ status.text)
    else status.reason "STAT"

/-- The call, made through a session. -/
def run (d : Dialogue) (s : PopSession) (w : World) : Outcome PopSession :=
  d.operation.run s d.arguments w

/-- Calls made one after the other through one session. -/
def runAll (dialogues : List Dialogue) (s : PopSession) (w : World) : PopSession × World :=
  dialogues.foldl (fun now d => ((d.run now.1 now.2).target, (d.run now.1 now.2).world)) (s, w)

theorem runAll_cons (d : Dialogue) (rest : List Dialogue) (s : PopSession) (w : World) :
    runAll (d :: rest) s w = runAll rest (d.run s w).target (d.run s w).world :=
  List.foldl_cons

end Dialogue

/-! ## Section 3: One command -/

/-- Everything the server sent was read, and it goes on by the plan. -/
structure Link.Ready (link : Link) (plan : List Bytes) : Prop where
  whole : link.broken = false
  unread : link.unread = []
  replies : link.replies = plan

/-- The link after commands whose replies were read. -/
def Link.told (link : Link) (commands : List String) (plan : List Bytes) : Link :=
  { link with heard := link.heard ++ commands.map Text.Utf8.write, replies := plan }

namespace Link

variable {link : Link} {reply : Bytes} {later : List Bytes}

theorem Ready.told {plan : List Bytes} (hready : link.Ready plan) (commands : List String)
    (later : List Bytes) : (link.told commands later).Ready later :=
  ⟨hready.whole, hready.unread, rfl⟩

theorem Ready.told_nil {plan : List Bytes} (hready : link.Ready plan) :
    link.told [] plan = link := by
  rw [Link.told, List.map_nil, List.append_nil, ← hready.replies]

theorem told_told (link : Link) (before after : List String) (plan later : List Bytes) :
    (link.told before plan).told after later = link.told (before ++ after) later := by
  simp only [told, List.map_append, List.append_assoc]

theorem Ready.hear (hready : link.Ready (reply :: later)) (command : String) :
    { link.hear (Text.Utf8.write command) with unread := [] } = link.told [command] later := by
  obtain ⟨hwhole, hunread, hreplies⟩ := hready
  cases link
  subst hwhole hunread hreplies
  rfl

/-- What is read after a command on such a link is the next reply. -/
theorem Ready.next (hready : link.Ready (reply :: later)) :
    link.unread ++ link.replies.headD [] = reply := by
  rw [hready.unread, hready.replies]
  rfl

end Link

section Commands

variable {link : Link} {later : List Bytes} {command : String} (verb : String)

theorem bytesOf_status (status : TextLine) :
    TextLine.bytesOf [status] = status.sent.bytes ++ [] :=
  SentLine.bytesOf_cons status.sent []

theorem ask_of_ready {status : TextLine} (hline : IsLine command)
    (hready : link.Ready (TextLine.bytesOf [status] :: later)) :
    ask command link = (link.told [command] later, .ok (some status.text)) := by
  rw [ask_of_line hline hready.whole (hready.next.trans (bytesOf_status status)), hready.hear,
    TextLine.text_sent]

theorem askStatus_of_ready (status : Status) (hline : IsLine command)
    (hready : link.Ready (TextLine.bytesOf [status.toTextLine] :: later)) :
    askStatus command verb link =
      (link.told [command] later,
        .ok (if status.accepts then .ok status.text
          else .error (errorResponse verb status.text))) := by
  have hstatus : commandStatus verb (some status.text) =
      if status.accepts then .ok status.text else .error (errorResponse verb status.text) := by
    cases haccepts : status.accepts with
    | true => exact commandStatus_of_accepts verb haccepts
    | false => exact commandStatus_of_refuses verb (status.refuses_of_not_accepts haccepts)
  rw [askStatus_of_line verb hline hready.whole (hready.next.trans (bytesOf_status _)), hready.hear,
    TextLine.text_sent, hstatus]

variable (isLast : String → Bool)

theorem askListing_of_ready_refusal {status : Status} (hrefused : status.accepts = false)
    (hline : IsLine command)
    (hready : link.Ready (TextLine.bytesOf [status.toTextLine] :: later)) :
    askListing command verb isLast link =
      (link.told [command] later, .ok (.error status.text)) := by
  have hstatus : listingStatus verb (some status.sent.text) = .error status.text := by
    rw [TextLine.text_sent]
    exact listingStatus_of_refuses verb (status.refuses_of_not_accepts hrefused)
  rw [askListing_of_refusal verb isLast hline hready.whole
    (hready.next.trans (bytesOf_status status.toTextLine)) hstatus, hready.hear]

theorem askListing_of_ready_lines {status : Status} {lines : List TextLine} {closing : TextLine}
    (haccepted : status.accepts = true) (hlines : ∀ l ∈ lines, isLast l.text = false)
    (hlast : isLast closing.text = true) (hline : IsLine command)
    (hready : link.Ready
      (TextLine.bytesOf (status.toTextLine :: lines ++ [closing]) :: later)) :
    askListing command verb isLast link =
      (link.told [command] later, .ok (.ok (lines.map TextLine.text, .line closing.text))) := by
  have hunread : link.unread ++ link.replies.headD [] = status.sent.bytes ++
      (SentLine.bytesOf (lines.map TextLine.sent) ++ closing.sent.bytes ++ []) := by
    rw [hready.next, ← TextLine.bytesOf_listing, List.append_nil]
  have hstatus : listingStatus verb (some status.sent.text) = .ok () := by
    rw [TextLine.text_sent]
    exact listingStatus_of_accepts verb haccepted
  rw [askListing_of_lines verb isLast hline hready.whole hunread hstatus
      (TextLine.forall_text_sent (P := (isLast · = false)) hlines)
      ((congrArg isLast closing.text_sent).trans hlast),
    hready.hear, TextLine.map_text_sent, TextLine.text_sent]

end Commands

/-! ## Section 4: One call -/

section Calls

variable {link : Link} {later : List Bytes}

theorem endsListing_of_isListed {line : String} (h : IsListed line) : endsListing line = false := by
  obtain ⟨hnonempty, -, hminus, hdot⟩ := h
  simp only [endsListing, hminus, hdot, Bool.or_false]
  exact Bool.eq_false_iff.mpr (mt String.isEmpty_iff.mp hnonempty)

/-- The list of messages is read like any listing, but its status line is one of the lines. -/
theorem list_of_ready (listing : Listing IsListed)
    (hready : link.Ready (TextLine.bytesOf listing.reply :: later)) :
    list link = (link.told ["list"] later,
      .ok ⟨listing.texts, listing.refusal?.map (errorResponse "LIST")⟩) := by
  have hsend : link.send "list" = (link.hear (Text.Utf8.write "list"), .ok ()) :=
    Link.send_of_line (by decide) hready.whole
  have hheard : (link.hear (Text.Utf8.write "list")).unread = TextLine.bytesOf listing.reply :=
    (link.unread_hear hready.whole _).trans hready.next
  cases listing with
  | refused status hrefused =>
    -- The refusal is the one line there is, and a line with a minus in front ends the listing
    have hrefuses := status.refuses_of_not_accepts hrefused
    have hlast : endsListing status.sent.text = true := by
      rw [status.text_sent, endsListing, hrefuses, Bool.or_true, Bool.true_or]
    have hread := Link.readUntil_of_lines (List.forall_mem_nil _) hlast
      (hheard.trans (bytesOf_status status.toTextLine))
    simp only [list, hsend, hread, hready.hear, status.text_sent, listingFault?,
      not_isEmpty_of_startsWith hrefuses, hrefuses, Bool.false_eq_true, if_false, if_true]
    rfl
  | listed status haccepted lines hlines closing hclosing =>
    have hplus : startsWith status.text '+' = true := haccepted
    have hmore : ∀ l ∈ status.toTextLine :: lines, endsListing l.text = false := by
      intro l hl
      rcases List.mem_cons.mp hl with rfl | hmem
      · exact endsListing_of_accepts hplus
      · exact endsListing_of_isListed (hlines l hmem)
    have hlast : endsListing closing.sent.text = true := by
      rw [closing.text_sent, hclosing]
      decide
    have hunread : (link.hear (Text.Utf8.write "list")).unread =
        SentLine.bytesOf ((status.toTextLine :: lines).map TextLine.sent) ++ closing.sent.bytes ++
          [] := by
      rw [hheard, List.append_nil, ← TextLine.bytesOf_concat]
      rfl
    have hread := Link.readUntil_of_lines
      (TextLine.forall_text_sent (P := (endsListing · = false)) hmore) hlast hunread
    -- Of the lines that were read, the status line alone is left out
    have hkept : ((status.toTextLine :: lines).map TextLine.text).filter (!startsWith · '+') =
        lines.map TextLine.text := by
      rw [List.map_cons, List.filter_cons_of_neg (by simp [hplus]), List.filter_eq_self]
      intro text htext
      obtain ⟨l, hl, rfl⟩ := List.mem_map.mp htext
      rw [(hlines l hl).2.1]
      rfl
    simp only [list, hsend, hread, hready.hear, closing.text_sent, TextLine.map_text_sent, hkept,
      hclosing]
    rfl

theorem delete_of_ready (message : Int32) (status : Status)
    (hready : link.Ready (TextLine.bytesOf [status.toTextLine] :: later)) :
    delete message link = (link.told ["dele " ++ Text.Decimal.ofInt32 message] later,
      .ok ⟨status.accepts, status.reason "DELE"⟩) := by
  have hline : IsLine ("dele " ++ Text.Decimal.ofInt32 message) :=
    IsLine.append (by decide) (isLine_ofInt32 message)
  rw [delete, askStatus_of_ready "DELE" status hline hready, Status.reason]
  cases status.accepts <;> rfl

theorem noop_of_ready (status : Status)
    (hready : link.Ready (TextLine.bytesOf [status.toTextLine] :: later)) :
    noop link = (link.told ["noop"] later, .ok ⟨(), none⟩) := by
  rw [noop, ask_of_ready (by decide) hready]

theorem stat_of_ready (status : Status)
    (hready : link.Ready (TextLine.bytesOf [status.toTextLine] :: later)) :
    stat link = (link.told ["stat"] later,
      .ok ⟨if status.accepts then (messageCount? status.text).getD (-1) else -1,
        if status.accepts && (messageCount? status.text).isNone then
          some ("Malformed STAT response:  " ++ status.text)
        else status.reason "STAT"⟩) := by
  rw [stat, askStatus_of_ready "STAT" status (by decide) hready, Status.reason]
  cases status.accepts with
  | false => rfl
  | true =>
    simp only [if_true]
    cases messageCount? status.text <;> rfl

theorem retrieve_of_ready (message : Int32) (listing : Listing (· ≠ "."))
    (hready : link.Ready (TextLine.bytesOf listing.reply :: later)) :
    retrieve message link = (link.told ["retr " ++ Text.Decimal.ofInt32 message] later,
      .ok ⟨messageOfLines listing.texts, listing.refusal?⟩) := by
  have hline := isLine_retr message
  cases listing with
  | refused status hrefused =>
    rw [retrieve, askListing_of_ready_refusal "RETR" (· == ".") hrefused hline hready]
    rfl
  | listed status haccepted lines hlines closing hclosing =>
    rw [retrieve, askListing_of_ready_lines "RETR" (· == ".") haccepted
      (fun l hl => beq_eq_false_iff_ne.mpr (hlines l hl)) (beq_iff_eq.mpr hclosing) hline hready]
    rfl

/-- The password goes out only after the user was accepted. -/
theorem authenticate_of_ready_refusal (user password : String) (status : Status)
    (huser : IsLine user) (hrefused : status.accepts = false)
    (hready : link.Ready (TextLine.bytesOf [status.toTextLine] :: later)) :
    authenticate user password link = (link.told ["user " ++ user] later,
      .ok ⟨false, status.reason "USER"⟩) := by
  rw [authenticate, askStatus_of_ready "USER" status (IsLine.append (by decide) huser) hready,
    Status.reason, hrefused]
  rfl

theorem authenticate_of_ready {user password : String} (named status : Status)
    (huser : IsLine user) (hpassword : IsLine password) (haccepted : named.accepts = true)
    (hready : link.Ready (TextLine.bytesOf [named.toTextLine] ::
      TextLine.bytesOf [status.toTextLine] :: later)) :
    authenticate user password link =
      (link.told ["user " ++ user, "pass " ++ password] later,
        .ok ⟨status.accepts, status.reason "PASS"⟩) := by
  -- Once the reply to the user is read, the link is ready for the reply to the password
  have hstatus := askStatus_of_ready "PASS" status
    (IsLine.append (s := "pass ") (by decide) hpassword)
    (hready.told ["user " ++ user] (TextLine.bytesOf [status.toTextLine] :: later))
  rw [authenticate, askStatus_of_ready "USER" named (IsLine.append (by decide) huser) hready,
    haccepted]
  simp only [if_true, hstatus, Link.told_told, Status.reason]
  cases status.accepts <;> rfl

end Calls

end Pop

/-! ## Section 5: Sequences of calls -/

open Pop

namespace Pop.Dialogue

variable {s : PopSession} {w : World} {id : ConnectionId} {link : Link} {later : List Bytes}

/-- **One call** reads the replies to its own commands and gives what they say. -/
theorem run_of_ready (d : Dialogue) (hconnection : s.connection = some id)
    (hlink : w.network.link? id = some link) (hready : link.Ready (d.plan ++ later)) :
    d.run s w = ⟨{ s with failureReason := d.reason },
      { w with network := w.network.updateLink id (link.told d.commands later) },
      .ok d.result⟩ := by
  cases d with
  | userRefused user password huser status hrefused =>
    exact PopSession.converseOutcome_of_link hconnection hlink
      (authenticate_of_ready_refusal _ _ status huser hrefused hready)
  | authenticate user password huser hpassword named haccepted status =>
    exact PopSession.converseOutcome_of_link hconnection hlink
      (authenticate_of_ready named status huser hpassword haccepted hready)
  | delete message status =>
    exact PopSession.converseOutcome_of_link hconnection hlink
      (delete_of_ready message status hready)
  | list listing =>
    exact PopSession.converseOutcome_of_link hconnection hlink (list_of_ready listing hready)
  | noop status =>
    exact PopSession.converseOutcome_of_link hconnection hlink (noop_of_ready status hready)
  | retrieve message listing =>
    exact PopSession.converseOutcome_of_link hconnection hlink
      (retrieve_of_ready message listing hready)
  | stat status =>
    exact PopSession.converseOutcome_of_link hconnection hlink (stat_of_ready status hready)

/-- **Calls in sequence** leave the connection where the next call expects it. -/
theorem runAll_of_ready (dialogues : List Dialogue) (hconnection : s.connection = some id)
    (hlink : w.network.link? id = some link)
    (hready : link.Ready (dialogues.flatMap plan ++ later)) :
    (runAll dialogues s w).1.connection = some id ∧
      (runAll dialogues s w).2.network.link? id =
        some (link.told (dialogues.flatMap commands) later) := by
  induction dialogues generalizing s w link with
  | nil =>
    exact ⟨hconnection, hlink.trans (congrArg some hready.told_nil.symm)⟩
  | cons d rest ih =>
    rw [List.flatMap_cons, List.append_assoc] at hready
    -- What the first call leaves is ready for the replies to the rest
    have hfirst := d.run_of_ready hconnection hlink hready
    rw [runAll_cons, hfirst, List.flatMap_cons, ← Link.told_told]
    exact ih hconnection (Network.link?_updateLink hlink) (hready.told d.commands _)

/-- **Calls stay in step with their server.** After any calls, the next one gives what its own
replies say: listed lines are exactly those between status line and dot, and the lines of a message
are split at the first empty one. It leaves nothing unread, and the server goes on by its plan. -/
theorem calls_in_lockstep (earlier : List Dialogue) (last : Dialogue)
    (hconnection : s.connection = some id) (hlink : w.network.link? id = some link)
    (hready : link.Ready ((earlier ++ [last]).flatMap plan ++ later)) :
    let before := runAll earlier s w
    let after := last.run before.1 before.2
    (after.result = .ok last.result ∧ after.target.failureReason = last.reason) ∧
      (∀ lines, last.result = .list lines → lines = last.listed) ∧
      (∀ mail, last.result = .value (.mailMessage mail) →
        SplitsInto last.listed mail.headerLines mail.bodyLines) ∧
      ∃ link', after.world.network.link? id = some link' ∧ link'.unread = [] ∧
        link'.replies = later ∧
        link'.heard = link.heard ++
          ((earlier ++ [last]).flatMap commands).map Text.Utf8.write := by
  intro before after
  -- For the earlier calls, the replies to the last one are later replies
  have hsplit : (earlier ++ [last]).flatMap plan ++ later =
      earlier.flatMap plan ++ (last.plan ++ later) := by
    rw [List.flatMap_append, List.flatMap_singleton, List.append_assoc]
  rw [hsplit] at hready
  obtain ⟨hconnected, hopen⟩ := runAll_of_ready earlier hconnection hlink hready
  have hready' := hready.told (earlier.flatMap commands) (last.plan ++ later)
  have hafter : after = _ := last.run_of_ready hconnected hopen hready'
  refine ⟨?result, ?lines, ?message, link.told ((earlier ++ [last]).flatMap commands) later,
    ?link, hready.unread, rfl, rfl⟩
  case result =>
    rw [hafter]
    exact ⟨rfl, rfl⟩
  case lines =>
    intro lines hlines
    cases last with
    | list listing => exact (Result.list.inj hlines).symm
    | _ => cases hlines
  case message =>
    intro mail hmail
    cases last with
    | retrieve message listing =>
      obtain rfl := Value.mailMessage.inj (Result.value.inj hmail)
      exact splitsInto_messageOfLines listing.texts
    | _ => cases hmail
  case link =>
    rw [hafter, Network.link?_updateLink hopen, Link.told_told, List.flatMap_append,
      List.flatMap_singleton]

/-- One message is counted, listed and fetched, with lines that look like replies in its body. -/
theorem message_fetched_in_step :
    let accepted : Status := { text := "+OK" }
    let earlier : List Dialogue :=
      [.authenticate (some "ann") none (by decide) (by decide) accepted (by decide)
          { text := "+OK 1 new" },
        .stat { text := "+OK 1 120" },
        .list (.listed accepted (by decide) [{ text := "1 120", ending := .feed }]
          (List.forall_mem_singleton.mpr (by decide)) { text := "." } rfl)]
    let last : Dialogue := .retrieve 1 (.listed accepted (by decide)
      [{ text := "Subject: replies" }, { text := "" }, { text := "+OK" }, { text := ".." },
        { text := "", ending := .feed }, { text := "-ERR" }] (by decide) { text := "." } rfl)
    let later := [Text.Utf8.write "+OK\r\n"]
    let link : Link :=
      { unread := [], replies := (earlier ++ [last]).flatMap plan ++ later, ending := .close }
    let s : PopSession := { connection := some 0 }
    let w : World := { network := { connections := [{ server := 0, link }] } }
    let before := runAll earlier s w
    (s.connection = some 0 ∧ w.network.link? 0 = some link ∧
      link.Ready ((earlier ++ [last]).flatMap plan ++ later)) ∧
      (last.run before.1 before.2).result = .ok last.result ∧
      last.listed = ["Subject: replies", "", "+OK", "..", "", "-ERR"] ∧
      ∃ mail, last.result = .value (.mailMessage mail) ∧
        mail.headerLines = ["Subject: replies"] ∧ mail.bodyLines = ["+OK", "..", "", "-ERR"] := by
  intro accepted earlier last later link s w before
  have hready : link.Ready ((earlier ++ [last]).flatMap plan ++ later) := ⟨rfl, rfl, rfl⟩
  obtain ⟨⟨hresult, -⟩, -, -, -⟩ :=
    calls_in_lockstep (s := s) (w := w) earlier last rfl rfl hready
  refine ⟨⟨rfl, rfl, hready⟩, hresult, rfl, _, rfl, ?_, ?_⟩
  · rw [headerLines_messageOfLines]
    decide
  · rw [bodyLines_messageOfLines]
    decide

end Pop.Dialogue

end JobScript
