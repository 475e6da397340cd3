import JobScript.Proofs.Pop.Turns

/-!
# Commands on the Wire

A command is written to the server as it is, with a line ending behind it. The client reads one
line for each command, but the server takes every line of what was written for a command. The two
agree as long as no line feed is in a command; each one gives the server another command, whose
reply nobody waits for.

This matters for the login, where a script gives the texts that are sent.

## Architecture

- `length_completeLines`, `completeLines_append`: the lines of bytes that were written
- `count_write`: line feeds of a text and of its bytes
- `Attempt`, `Link.Attempts`: commands that were sent, and the one read after each
- `Attempts.heard_prefix`, `Attempts.heard_of_isLine`: what the server hears of them
- `LoginAttempts`, `exists_attempts_authenticate`: the commands of a login
- `PopSession.login_on_the_wire`: the login of a session
-/

namespace JobScript

namespace Pop

/-! ## Section 1: Lines of bytes -/

theorem cutLine?_of_noFeed {bytes : Bytes} (h : lineFeed ∉ bytes) : cutLine? bytes = none := by
  induction bytes with
  | nil => rfl
  | cons byte rest ih =>
    rw [List.mem_cons, not_or] at h
    rw [cutLine?, if_neg (Ne.symm h.1), ih h.2]
    rfl

theorem completeLines_cons {line : Bytes} (h : lineFeed ∉ line) (rest : Bytes) :
    completeLines (line ++ lineFeed :: rest) = stripReturn line :: completeLines rest :=
  completeLines_of_cut (cutLine?_append h rest)

/-- Every line feed ends a line. -/
theorem length_completeLines (bytes : Bytes) :
    (completeLines bytes).length = bytes.count lineFeed := by
  induction hlength : bytes.length using Nat.strong_induction_on generalizing bytes with
  | _ n ih =>
    by_cases hfeed : lineFeed ∈ bytes
    · obtain ⟨line, rest, rfl, hline⟩ := List.eq_append_cons_of_mem hfeed
      have hshorter : rest.length < n := by
        rw [← hlength, List.length_append, List.length_cons]
        omega
      rw [completeLines_cons hline, List.length_cons, ih _ hshorter rest rfl, List.count_append,
        List.count_eq_zero_of_not_mem hline, List.count_cons_self, Nat.zero_add]
    · rw [completeLines_of_no_cut (cutLine?_of_noFeed hfeed),
        List.count_eq_zero_of_not_mem hfeed]
      rfl

/-- A line feed keeps what stands before it apart from what comes after it. -/
theorem completeLines_append (bytes rest : Bytes) :
    completeLines (bytes ++ lineFeed :: rest)
      = completeLines (bytes ++ [lineFeed]) ++ completeLines rest := by
  induction hlength : bytes.length using Nat.strong_induction_on generalizing bytes with
  | _ n ih =>
    by_cases hfeed : lineFeed ∈ bytes
    · obtain ⟨line, after, rfl, hline⟩ := List.eq_append_cons_of_mem hfeed
      have hshorter : after.length < n := by
        rw [← hlength, List.length_append, List.length_cons]
        omega
      rw [List.append_assoc, List.append_assoc, List.cons_append, List.cons_append,
        completeLines_cons hline, completeLines_cons hline, ih _ hshorter after rfl,
        List.cons_append]
    · rw [completeLines_cons hfeed, completeLines_cons hfeed,
        completeLines_of_no_cut (cutLine?_of_noFeed List.not_mem_nil)]
      rfl

theorem count_encode (c : Char) :
    (String.utf8EncodeChar c).count lineFeed = if c = '\n' then 1 else 0 := by
  split
  · rename_i hc
    rw [hc]
    decide
  · rename_i hc
    apply List.count_eq_zero_of_not_mem
    intro hmem
    apply hc
    have hcode := Text.Utf8.toNat_eq_of_mem_encode (by decide) hmem
    exact Char.toNat_inj.mp hcode

/-- A text has as many line feeds as its bytes. -/
theorem count_write (text : String) :
    (Text.Utf8.write text).count lineFeed = text.toList.count '\n' := by
  rw [Text.Utf8.write_eq]
  induction text.toList with
  | nil => rfl
  | cons c rest ih =>
    rw [List.flatMap_cons, List.count_append, count_encode, ih, List.count_cons, Nat.add_comm]
    simp only [beq_iff_eq]

/-! ## Section 2: Commands that were sent -/

/-- A command that was sent, and what came of reading one line after it. -/
structure Attempt where
  command : String
  reading : Except TransportError (Option String)

namespace Attempt

/-- The bytes of commands sent one after the other. -/
def written (attempts : List Attempt) : Bytes :=
  attempts.flatMap fun attempt => Link.commandBytes attempt.command

/-- The line feeds inside commands. -/
def lineFeeds (attempts : List Attempt) : Nat :=
  (attempts.flatMap fun attempt => attempt.command.toList).count '\n'

theorem written_cons (attempt : Attempt) (attempts : List Attempt) :
    written (attempt :: attempts)
      = Link.commandBytes attempt.command ++ written attempts :=
  List.flatMap_cons

theorem completeLines_written_cons (attempt : Attempt) (attempts : List Attempt) :
    completeLines (written (attempt :: attempts))
      = completeLines (Link.commandBytes attempt.command)
        ++ completeLines (written attempts) := by
  have hbytes : Link.commandBytes attempt.command
      = (Text.Utf8.write attempt.command ++ [carriageReturn]) ++ [lineFeed] := by
    rw [List.append_assoc]
    rfl
  rw [written_cons, hbytes, List.append_assoc]
  exact completeLines_append _ _

/-- There is a line for every command, and one more for every line feed inside one. -/
theorem length_completeLines_written (attempts : List Attempt) :
    (completeLines (written attempts)).length = attempts.length + lineFeeds attempts := by
  induction attempts with
  | nil => rw [written, List.flatMap_nil, completeLines_of_no_cut rfl]; rfl
  | cons attempt attempts ih =>
    have hfeeds : (Link.commandBytes attempt.command).count lineFeed
        = attempt.command.toList.count '\n' + 1 := by
      rw [Link.commandBytes, List.count_append, count_write]
      rfl
    rw [completeLines_written_cons, List.length_append, length_completeLines, hfeeds, ih,
      lineFeeds, lineFeeds, List.flatMap_cons, List.count_append, List.length_cons]
    omega

/-- Commands without line feeds are the lines that were written. -/
theorem completeLines_written_of_isLine {attempts : List Attempt}
    (h : ∀ attempt ∈ attempts, IsLine attempt.command) :
    completeLines (written attempts)
      = attempts.map fun attempt => Text.Utf8.write attempt.command := by
  induction attempts with
  | nil => exact completeLines_of_no_cut rfl
  | cons attempt attempts ih =>
    rw [List.forall_mem_cons] at h
    rw [completeLines_written_cons, Link.completeLines_commandBytes h.1, ih h.2]
    rfl

end Attempt

/-- Commands sent over a link; after each one, one line is read, or the attempt to read it fails. -/
inductive Link.Attempts : Link → List Attempt → Link → Prop
  | none (link : Link) : link.Attempts [] link
  | attempt {link sent read last : Link} {command : String}
      {reading : Except TransportError (Option String)} {rest : List Attempt}
      (hsend : link.send command = (sent, .ok ())) (hread : sent.readLine = (read, reading))
      (hrest : read.Attempts rest last) :
      link.Attempts (⟨command, reading⟩ :: rest) last

namespace Link

variable {link last : Link} {command : String} {attempts : List Attempt}

theorem send_of_broken (h : link.broken = true) (command : String) :
    link.send command = (link, .error (.write .brokenPipe)) :=
  if_pos h

theorem send_of_whole (h : link.broken = false) (command : String) :
    link.send command = ((completeLines (commandBytes command)).foldl hear link, .ok ()) :=
  if_neg (Bool.eq_false_iff.mp h)

/-- A command is sent exactly if the link is not broken. -/
theorem whole_of_send {sent : Link} (h : link.send command = (sent, .ok ())) :
    link.broken = false ∧ sent = (completeLines (commandBytes command)).foldl hear link := by
  cases hbroken : link.broken with
  | true =>
    rw [send_of_broken hbroken] at h
    cases h
  | false =>
    rw [send_of_whole hbroken] at h
    exact ⟨rfl, (congrArg Prod.fst h).symm⟩

/-- Reading neither tells the server anything nor breaks the link. -/
theorem told_nothing_of_readLine {sent read : Link}
    {reading : Except TransportError (Option String)} (h : sent.readLine = (read, reading)) :
    read.heard = sent.heard ∧ read.broken = sent.broken := by
  obtain rfl : sent.readLine.1 = read := congrArg Prod.fst h
  refine ⟨Network.heard_readLine sent, ?_⟩
  unfold readLine
  split
  · rfl
  · split
    · rfl
    · split
      · split <;> rfl
      · rfl

theorem heard_hear (h : link.broken = false) (line : Bytes) :
    (link.hear line).heard = link.heard ++ [line] := by
  rw [hear, if_neg (Bool.eq_false_iff.mp h)]
  split <;> rfl

theorem foldl_hear_of_broken (h : link.broken = true) (lines : List Bytes) :
    lines.foldl hear link = link := by
  induction lines with
  | nil => rfl
  | cons line lines ih => rw [List.foldl_cons, hear, if_pos h, ih]

/-- Lines reach the server one after the other, until one of them breaks the link. -/
theorem heard_foldl_hear (h : link.broken = false) (lines : List Bytes) :
    (lines.foldl hear link).heard <+: link.heard ++ lines ∧
      ((lines.foldl hear link).broken = false →
        (lines.foldl hear link).heard = link.heard ++ lines) := by
  induction lines generalizing link with
  | nil => simp
  | cons line lines ih =>
    have hassoc : link.heard ++ line :: lines = (link.hear line).heard ++ lines := by
      rw [heard_hear h, List.append_assoc, List.singleton_append]
    rw [List.foldl_cons, hassoc]
    cases hbroken : (link.hear line).broken with
    | false => exact ih hbroken
    | true =>
      -- The lines behind this one are lost
      rw [foldl_hear_of_broken hbroken]
      exact ⟨List.prefix_append _ _, fun hwhole => absurd (hbroken.symm.trans hwhole) (by decide)⟩

namespace Attempts

/-- Over a broken link, nothing is sent. -/
theorem eq_nil_of_broken (h : link.Attempts attempts last) (hbroken : link.broken = true) :
    attempts = [] ∧ last = link := by
  cases h with
  | none => exact ⟨rfl, rfl⟩
  | attempt hsend =>
    rw [send_of_broken hbroken] at hsend
    cases hsend

/-- The server hears the lines of what was written, all of them if they did not break the link. -/
theorem heard_prefix (h : link.Attempts attempts last) :
    last.heard <+: link.heard ++ completeLines (Attempt.written attempts) ∧
      (last.broken = false →
        last.heard = link.heard ++ completeLines (Attempt.written attempts)) := by
  induction h with
  | none link =>
    rw [Attempt.written, List.flatMap_nil, completeLines_of_no_cut rfl, List.append_nil]
    exact ⟨List.prefix_rfl, fun _ => rfl⟩
  | @attempt link sent read last command reading rest hsend hread hrest ih =>
    obtain ⟨hwhole, rfl⟩ := whole_of_send hsend
    have hheard := heard_foldl_hear hwhole (completeLines (commandBytes command))
    obtain ⟨hsame, hbroken⟩ := told_nothing_of_readLine hread
    rw [← hsame, ← hbroken] at hheard
    rw [Attempt.completeLines_written_cons, ← List.append_assoc]
    cases hlost : read.broken with
    | true =>
      obtain ⟨rfl, rfl⟩ := hrest.eq_nil_of_broken hlost
      exact ⟨hheard.1.trans (List.prefix_append _ _),
        fun hlast => absurd (hlost.symm.trans hlast) (by decide)⟩
    | false =>
      rw [← hheard.2 hlost]
      exact ih

/-- Commands without line feeds are heard as they are. -/
theorem heard_of_isLine (h : link.Attempts attempts last)
    (hline : ∀ attempt ∈ attempts, IsLine attempt.command) :
    last.heard = link.heard ++ attempts.map fun attempt => Text.Utf8.write attempt.command := by
  induction h with
  | none link => simp
  | @attempt link sent read last command reading rest hsend hread hrest ih =>
    rw [List.forall_mem_cons] at hline
    obtain ⟨hwhole, -⟩ := whole_of_send hsend
    rw [send_of_line hline.1 hwhole] at hsend
    obtain ⟨rfl, -⟩ := Prod.mk.inj hsend
    rw [ih hline.2, (told_nothing_of_readLine hread).1, heard_hear hwhole, List.append_assoc]
    rfl

end Attempts

end Link

/-! ## Section 3: The commands of a login -/

/-- The commands of a login, if there are any: the user, and the password if a line was read that
accepts the user. -/
inductive LoginAttempts (user password : String) : List Attempt → Prop
  | none : LoginAttempts user password []
  | user (reading : Except TransportError (Option String)) :
      LoginAttempts user password [⟨"user " ++ user, reading⟩]
  | password {named : Option String} (haccepted : accepts named = true)
      (reading : Except TransportError (Option String)) :
      LoginAttempts user password
        [⟨"user " ++ user, .ok named⟩, ⟨"pass " ++ password, reading⟩]

section Logins

variable (link : Link) (command verb user password : String)

/-- A command is sent, unless the link is broken. -/
theorem attempts_ask (h : link.broken = false) :
    link.Attempts [⟨command, (ask command link).2⟩] (ask command link).1 := by
  have hsend := Link.send_of_whole h command
  refine .attempt hsend ?_ (.none _)
  rw [ask, hsend]

theorem ask_of_broken {link : Link} (h : link.broken = true) :
    ask command link = (link, .error (.write .brokenPipe)) := by
  rw [ask, Link.send_of_broken h]

theorem fst_askStatus : (askStatus command verb link).1 = (ask command link).1 := by
  unfold askStatus
  rcases ask command link with ⟨last, error | line⟩ <;> rfl

theorem fst_verdict : (verdict command verb link).1 = (ask command link).1 := by
  rw [← fst_askStatus link command verb, verdict]
  rcases askStatus command verb link with ⟨last, error | reason | line⟩ <;> rfl

/-- Whatever a login comes to, this is what was sent for it. -/
theorem exists_attempts_authenticate :
    ∃ attempts, link.Attempts attempts (authenticate user password link).1 ∧
      LoginAttempts user password attempts ∧ (attempts = [] ↔ link.broken = true) := by
  cases hbroken : link.broken with
  | true =>
    have hstays : (authenticate user password link).1 = link := by
      simp only [authenticate, askStatus, ask_of_broken _ hbroken]
    rw [hstays]
    exact ⟨[], .none link, .none, by simp⟩
  | false =>
    have hnamed := attempts_ask link ("user " ++ user) hbroken
    rcases hask : ask ("user " ++ user) link with ⟨read, error | line⟩
    · -- No line was read
      rw [hask] at hnamed
      have hends : (authenticate user password link).1 = read := by
        simp only [authenticate, askStatus, hask]
      rw [hends]
      exact ⟨_, hnamed, .user _, by simp⟩
    rw [hask] at hnamed
    have htakes := ask_eq_ok_iff.mp hask
    cases haccepts : accepts line with
    | false =>
      obtain ⟨reason, hrefused⟩ := authenticate_of_refused password htakes haccepts
      rw [hrefused]
      exact ⟨_, hnamed, .user _, by simp⟩
    | true =>
      rw [authenticate_of_accepted password htakes haccepts, fst_verdict]
      cases hlost : read.broken with
      | true =>
        -- The user was accepted in a line sent before the link broke
        rw [ask_of_broken _ hlost]
        exact ⟨_, hnamed, .user _, by simp⟩
      | false =>
        obtain ⟨⟩ | ⟨hsend, hread, ⟨⟩⟩ := hnamed
        exact ⟨_, .attempt hsend hread (attempts_ask read ("pass " ++ password) hlost),
          .password haccepts _, by simp⟩

end Logins

/-- What a login writes on a link, and what the server hears of it. -/
structure WritesLogin (user password : String) (link last : Link) (attempts : List Attempt) :
    Prop where
  sent : link.Attempts attempts last
  form : LoginAttempts user password attempts
  none_iff : attempts = [] ↔ link.broken = true
  /-- One line for each command, and one more for each line feed inside one -/
  lines : (completeLines (Attempt.written attempts)).length
    = attempts.length + Attempt.lineFeeds attempts
  heard_prefix : last.heard <+: link.heard ++ completeLines (Attempt.written attempts)
  heard_of_whole : last.broken = false →
    last.heard = link.heard ++ completeLines (Attempt.written attempts)
  /-- Commands without line feeds are the lines themselves, and the server hears all of them -/
  of_isLine : IsLine user → IsLine password →
    completeLines (Attempt.written attempts)
        = (attempts.map fun attempt => Text.Utf8.write attempt.command) ∧
      last.heard
        = link.heard ++ attempts.map fun attempt => Text.Utf8.write attempt.command

theorem LoginAttempts.isLine {user password : String} {attempts : List Attempt}
    (h : LoginAttempts user password attempts) (huser : IsLine user)
    (hpassword : IsLine password) : ∀ attempt ∈ attempts, IsLine attempt.command := by
  have huser : IsLine ("user " ++ user) := .append (by decide) huser
  have hpassword : IsLine ("pass " ++ password) := .append (by decide) hpassword
  cases h <;> simp [huser, hpassword]

theorem exists_writesLogin (user password : String) (link : Link) :
    ∃ attempts, WritesLogin user password link (authenticate user password link).1 attempts := by
  obtain ⟨attempts, hsent, hform, hnone⟩ := exists_attempts_authenticate link user password
  refine ⟨attempts, hsent, hform, hnone, Attempt.length_completeLines_written attempts,
    hsent.heard_prefix.1, hsent.heard_prefix.2, ?_⟩
  intro huser hpassword
  have hline := hform.isLine huser hpassword
  exact ⟨Attempt.completeLines_written_of_isLine hline, hsent.heard_of_isLine hline⟩

end Pop

/-! ## Section 4: The login of a session -/

open Pop

namespace PopSession

/-- Over an open connection, an exchange changes the link as it does by itself. -/
theorem network_converseOutcome {α : Type} {s : PopSession} {w : World} {id : ConnectionId}
    {link : Link} {unconnected : α} {exchange : Exchange α} {result : α → Result}
    (hconnection : s.connection = some id) (hlink : w.network.link? id = some link) :
    (s.converseOutcome w unconnected exchange result).world.network
      = w.network.updateLink id (exchange link).1 := by
  rcases hexchange : exchange link with ⟨last, error | answer⟩
  · rw [converseOutcome_of_broken hconnection hlink hexchange]
  · rw [converseOutcome_of_link hconnection hlink hexchange]

/-- **A login on the wire**: whatever texts a script gives, at most two commands are sent, the user,
and the password once a line was read that accepts the user; one line is read after each. What is
written has a line for each of these commands, and one more for each line feed inside one. So if the
texts have no line feeds, the server hears the commands that were sent and no others. -/
theorem login_on_the_wire {s : PopSession} {w : World} {id : ConnectionId} {link : Link}
    (hconnection : s.connection = some id) (hlink : w.network.link? id = some link)
    (user password : Option String) :
    ∃ attempts last,
      (PopOperation.authenticate.run s [.text user, .text password] w).world.network
        = w.network.updateLink id last ∧
      WritesLogin (user.getD "") (password.getD "") link last attempts := by
  obtain ⟨attempts, hwrites⟩ := exists_writesLogin (user.getD "") (password.getD "") link
  exact ⟨attempts, _, network_converseOutcome hconnection hlink, hwrites⟩

section Example

/-- A server that accepts whatever it hears. -/
def willing : Link where
  unread := []
  replies := [Text.Utf8.write "+OK\r\n", Text.Utf8.write "+OK\r\n", Text.Utf8.write "+OK late\r\n"]
  ending := .close

def connected : PopSession :=
  { connection := some 0 }

def willingWorld : World :=
  { network := { connections := [{ server := 0, link := willing }] } }

/-- A login whose texts have no line feeds: the two commands that were sent are those that the
server hears. -/
theorem plain_login_heard :
    connected.connection = some 0 ∧ willingWorld.network.link? 0 = some willing ∧
      ∃ (attempts : List Attempt) (last : Link),
        (PopOperation.authenticate.run connected [.text (some "ann"), .text (some "x")]
          willingWorld).world.network = willingWorld.network.updateLink 0 last ∧
        attempts.map Attempt.command = ["user ann", "pass x"] ∧
        last.heard = [Text.Utf8.write "user ann", Text.Utf8.write "pass x"] := by
  refine ⟨rfl, rfl, ?_⟩
  obtain ⟨attempts, last, hnetwork, hwrites⟩ :=
    login_on_the_wire (s := connected) (w := willingWorld) rfl rfl (some "ann") (some "x")
  have hsent : last.heard = attempts.map fun attempt => Text.Utf8.write attempt.command :=
    (hwrites.of_isLine (by decide) (by decide)).2
  have hheard : last.heard = [Text.Utf8.write "user ann", Text.Utf8.write "pass x"] :=
    calc last.heard = (willingWorld.network.updateLink 0 last).heardBy 0 := by
          simp [Network.heardBy, Network.updateLink, willingWorld]
      _ = [Text.Utf8.write "user ann", Text.Utf8.write "pass x"] := by
          rw [← hnetwork]
          decide +kernel
  have htwo : attempts.length = 2 := by
    rw [← List.length_map (fun attempt => Text.Utf8.write attempt.command), ← hsent, hheard]
    rfl
  refine ⟨attempts, last, hnetwork, ?_, hheard⟩
  cases hwrites.form with
  | none => cases htwo
  | user => cases htwo
  | password => rfl

/-- A user with a line feed: the server hears three commands, and the reply to the last one is left
for whatever is read next. -/
theorem line_feed_adds_command :
    let outcome := PopOperation.authenticate.run connected
      [.text (some "ann\ndele 1"), .text (some "x")] willingWorld
    outcome.target.failureReason = none ∧
      outcome.world.network.heardBy 0
        = [Text.Utf8.write "user ann", Text.Utf8.write "dele 1", Text.Utf8.write "pass x"] ∧
      (outcome.world.network.link? 0).map Link.unread = some (Text.Utf8.write "+OK late\r\n") := by
  intro outcome
  decide +kernel

end Example

end PopSession

end JobScript
