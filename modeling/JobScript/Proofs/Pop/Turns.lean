import JobScript.Proofs.Pop.Connections
import JobScript.Proofs.Pop.Messages

/-!
# Turns on a Link

A session that is refused something says so twice: by the value it gives and by the reason it
leaves. Both follow from what was said on the link, where one line is read for each command sent.
So a call that gives true or false is compared with the turns it took: it gives true exactly if all
of them were accepted, and leaves a reason exactly if it does not.

## Architecture

- `Turn`, `Link.Takes`: commands sent over a link, and the line read after each
- `ask_eq_ok_iff`, `askStatus_of_takes`, `askStatus_cases`: one turn, and the judgement of its line
- `FollowsTurns`, `followsTurns_delete`, `followsTurns_authenticate`: exchanges that give true or
  false
- `PopSession.Takes`: the turns of a session
- `PopSession.FollowsReplies`, `PopSession.soft_failures_follow_replies`: logins and deletions
-/

namespace JobScript

namespace Pop

/-! ## Section 1: Turns -/

/-- A line was read, and it accepts. -/
def accepts (line : Option String) : Bool :=
  line.any (startsWith · '+')

/-- A command, and the line read after it. There is none if the stream of the server has ended. -/
structure Turn where
  command : String
  line : Option String

def Turn.isAccepted (turn : Turn) : Bool :=
  accepts turn.line

/-- Turns taken on a link: a command is sent, and exactly one line is read before the next. -/
inductive Link.Takes : Link → List Turn → Link → Prop
  | none (link : Link) : link.Takes [] link
  | turn {link sent read last : Link} {command : String} {line : Option String}
      {rest : List Turn} (hsend : link.send command = (sent, .ok ()))
      (hread : sent.readLine = (read, .ok line)) (hrest : read.Takes rest last) :
      link.Takes (⟨command, line⟩ :: rest) last

section Turns

variable {link last : Link} {command : String} {line : Option String} {rest : List Turn}

theorem ask_eq_ok_iff :
    ask command link = (last, .ok line) ↔ link.Takes [⟨command, line⟩] last := by
  constructor
  · intro hask
    unfold ask at hask
    split at hask
    · cases hask
    · rename_i sent hsend
      exact .turn hsend hask (.none last)
  · intro htakes
    cases htakes with
    | turn hsend hread hrest =>
      cases hrest
      rw [ask, hsend]
      exact hread

theorem Link.takes_cons_iff :
    link.Takes (⟨command, line⟩ :: rest) last ↔
      ∃ read, link.Takes [⟨command, line⟩] read ∧ read.Takes rest last := by
  constructor
  · intro htakes
    cases htakes with
    | turn hsend hread hrest => exact ⟨_, .turn hsend hread (.none _), hrest⟩
  · rintro ⟨read, hfirst, hrest⟩
    cases hfirst with
    | turn hsend hread hnone =>
      cases hnone
      exact .turn hsend hread hrest

variable (verb : String)

theorem commandStatus_of_accepted (h : accepts line = true) :
    ∃ text, line = some text ∧ startsWith text '+' = true ∧
      commandStatus verb line = .ok text := by
  cases line with
  | none => cases h
  | some text => exact ⟨text, rfl, h, commandStatus_of_accepts verb h⟩

/-- There is a reason for a line that is missing, empty, or without a plus in front. -/
theorem commandStatus_of_not_accepted (h : accepts line = false) :
    ∃ reason, commandStatus verb line = .error reason := by
  cases line with
  | none => exact ⟨_, rfl⟩
  | some text =>
    replace h : startsWith text '+' = false := h
    simp only [commandStatus, h, Bool.false_eq_true, if_false]
    split <;> exact ⟨_, rfl⟩

theorem askStatus_of_takes (h : link.Takes [⟨command, line⟩] last) :
    askStatus command verb link = (last, .ok (commandStatus verb line)) := by
  rw [askStatus, ask_eq_ok_iff.mpr h]

variable (command link)

/-- A command breaks the link, or it is a turn whose line is judged. -/
theorem askStatus_cases :
    (∃ last error, askStatus command verb link = (last, .error error)) ∨
      ∃ last line, link.Takes [⟨command, line⟩] last ∧
        askStatus command verb link = (last, .ok (commandStatus verb line)) := by
  rcases hask : ask command link with ⟨last, error | line⟩
  · exact .inl ⟨last, error, by rw [askStatus, hask]⟩
  · exact .inr ⟨last, line, ask_eq_ok_iff.mp hask, by rw [askStatus, hask]⟩

end Turns

/-! ## Section 2: Exchanges that give true or false -/

/-- An exchange follows turns of a certain form: if it gives an answer, then after such turns, the
answer is true if all of them were accepted, and otherwise there is a reason. Whenever such turns
are taken, it gives an answer. -/
structure FollowsTurns (exchange : Exchange Bool) (Form : List Turn → Prop) : Prop where
  given : ∀ {link last : Link} {answer : Answer Bool}, exchange link = (last, .ok answer) →
    ∃ turns, Form turns ∧ link.Takes turns last ∧
      (answer.value = true ↔ ∀ turn ∈ turns, turn.isAccepted = true) ∧
      (answer.reason = none ↔ answer.value = true)
  answered : ∀ {link last : Link} {turns : List Turn}, Form turns → link.Takes turns last →
    ∃ answer, exchange link = (last, .ok answer)

/-- One command, whose line decides between true and false. -/
def verdict (command verb : String) : Exchange Bool := fun link =>
  match askStatus command verb link with
  | (link, .error error) => (link, .error error)
  | (link, .ok (.error reason)) => (link, .ok ⟨false, some reason⟩)
  | (link, .ok (.ok _)) => (link, .ok ⟨true, none⟩)

section Verdicts

variable {link last : Link} {line : Option String} {command : String} (verb : String)

theorem verdict_of_takes (h : link.Takes [⟨command, line⟩] last) :
    ∃ answer, verdict command verb link = (last, .ok answer) ∧ answer.value = accepts line ∧
      (answer.reason = none ↔ answer.value = true) := by
  have hasked := askStatus_of_takes verb h
  cases haccepts : accepts line with
  | true =>
    obtain ⟨text, -, -, hstatus⟩ := commandStatus_of_accepted verb haccepts
    rw [hstatus] at hasked
    exact ⟨⟨true, none⟩, by simp only [verdict, hasked], rfl, iff_of_true rfl rfl⟩
  | false =>
    obtain ⟨reason, hstatus⟩ := commandStatus_of_not_accepted verb haccepts
    rw [hstatus] at hasked
    exact ⟨⟨false, some reason⟩, by simp only [verdict, hasked], rfl,
      iff_of_false (Option.some_ne_none reason) Bool.false_ne_true⟩

theorem followsTurns_verdict (command verb : String) :
    FollowsTurns (verdict command verb) fun turns => ∃ line, turns = [⟨command, line⟩] where
  given := by
    intro link last answer hanswer
    rcases askStatus_cases link command verb with ⟨broken, error, hasked⟩ | ⟨read, line, htakes, -⟩
    · simp only [verdict, hasked] at hanswer
      cases hanswer
    · obtain ⟨answer', hanswer', hvalue, hreason⟩ := verdict_of_takes verb htakes
      cases hanswer.symm.trans hanswer'
      refine ⟨_, ⟨line, rfl⟩, htakes, ?_, hreason⟩
      rw [hvalue, List.forall_mem_singleton]
      rfl
  answered := by
    rintro link last turns ⟨line, rfl⟩ htakes
    obtain ⟨answer, hanswer, -⟩ := verdict_of_takes verb htakes
    exact ⟨answer, hanswer⟩

end Verdicts

/-- The turn of a deletion. -/
def Deletion (message : Int32) (turns : List Turn) : Prop :=
  ∃ line, turns = [⟨"dele " ++ Text.Decimal.ofInt32 message, line⟩]

theorem followsTurns_delete (message : Int32) : FollowsTurns (delete message) (Deletion message) :=
  followsTurns_verdict _ "DELE"

/-- The turns of a login: the password is sent if the user was accepted, and only then. -/
inductive Login (user password : String) : List Turn → Prop
  | refused {named : Option String} (hrefused : accepts named = false) :
      Login user password [⟨"user " ++ user, named⟩]
  | accepted {named line : Option String} (haccepted : accepts named = true) :
      Login user password [⟨"user " ++ user, named⟩, ⟨"pass " ++ password, line⟩]

section Logins

variable {link last : Link} {user : String} {named : Option String} (password : String)

theorem authenticate_of_refused (htakes : link.Takes [⟨"user " ++ user, named⟩] last)
    (hrefused : accepts named = false) :
    ∃ reason, authenticate user password link = (last, .ok ⟨false, some reason⟩) := by
  obtain ⟨reason, hstatus⟩ := commandStatus_of_not_accepted "USER" hrefused
  have hasked := askStatus_of_takes "USER" htakes
  rw [hstatus] at hasked
  exact ⟨reason, by simp only [authenticate, hasked]⟩

/-- Once the user is accepted, the password decides. -/
theorem authenticate_of_accepted (htakes : link.Takes [⟨"user " ++ user, named⟩] last)
    (haccepted : accepts named = true) :
    authenticate user password link = verdict ("pass " ++ password) "PASS" last := by
  obtain ⟨text, -, -, hstatus⟩ := commandStatus_of_accepted "USER" haccepted
  have hasked := askStatus_of_takes "USER" htakes
  rw [hstatus] at hasked
  simp only [authenticate, hasked]
  rfl

theorem followsTurns_authenticate (user password : String) :
    FollowsTurns (authenticate user password) (Login user password) where
  given := by
    intro link last answer hanswer
    rcases askStatus_cases link ("user " ++ user) "USER" with
      ⟨broken, error, hasked⟩ | ⟨read, named, htakes, -⟩
    · simp only [authenticate, hasked] at hanswer
      cases hanswer
    -- A refused user ends the login after one turn, an accepted one is followed by the password
    cases hnamed : accepts named with
    | false =>
      obtain ⟨reason, hrefused⟩ := authenticate_of_refused password htakes hnamed
      cases hanswer.symm.trans hrefused
      refine ⟨_, .refused hnamed, htakes, ?_, ?_⟩
      · rw [List.forall_mem_singleton]
        exact iff_of_false Bool.false_ne_true (by simp [Turn.isAccepted, hnamed])
      · exact iff_of_false (Option.some_ne_none reason) Bool.false_ne_true
    | true =>
      rw [authenticate_of_accepted password htakes hnamed] at hanswer
      obtain ⟨turns, ⟨line, rfl⟩, hrest, hvalue, hreason⟩ :=
        (followsTurns_verdict _ "PASS").given hanswer
      have hall := List.forall_mem_cons (p := (Turn.isAccepted · = true))
        (a := ⟨"user " ++ user, named⟩) (l := [⟨"pass " ++ password, line⟩])
      refine ⟨_, .accepted hnamed, Link.takes_cons_iff.mpr ⟨read, htakes, hrest⟩, ?_, hreason⟩
      rw [hvalue, hall]
      exact (and_iff_right hnamed).symm
  answered := by
    intro link last turns hform htakes
    cases hform with
    | refused hrefused =>
      obtain ⟨reason, hanswer⟩ := authenticate_of_refused password htakes hrefused
      exact ⟨_, hanswer⟩
    | accepted haccepted =>
      obtain ⟨read, hnamed, hrest⟩ := Link.takes_cons_iff.mp htakes
      rw [authenticate_of_accepted password hnamed haccepted]
      exact (followsTurns_verdict _ "PASS").answered ⟨_, rfl⟩ hrest

end Logins

end Pop

/-! ## Section 3: The turns of a session -/

open Pop

namespace PopSession

/-- Turns taken by a session, and the network after them. Without a connection there are none. -/
inductive Takes (s : PopSession) (net : Network) : List Turn → Network → Prop
  | unconnected (hlink : s.link? net = none) : s.Takes net [] net
  | connected {id : ConnectionId} {link last : Link} {turns : List Turn}
      (hconnection : s.connection = some id) (hlink : net.link? id = some link)
      (htakes : link.Takes turns last) : s.Takes net turns (net.updateLink id last)

section Takes

variable {s : PopSession} {net net' : Network} {id : ConnectionId} {link : Link} {turns : List Turn}

theorem isConnected_of_link (hconnection : s.connection = some id)
    (hlink : net.link? id = some link) : s.isConnected net = true := by
  rw [isConnected, link?, hconnection, Option.bind_some, hlink]
  rfl

/-- Over an open connection, turns are taken on its link. -/
theorem Takes.of_link (h : s.Takes net turns net') (hconnection : s.connection = some id)
    (hlink : net.link? id = some link) : ∃ last, link.Takes turns last := by
  cases h with
  | unconnected hnone =>
    rw [link?, hconnection, Option.bind_some, hlink] at hnone
    cases hnone
  | connected hconnection' hlink' htakes =>
    cases hconnection.symm.trans hconnection'
    cases hlink.symm.trans hlink'
    exact ⟨_, htakes⟩

end Takes

/-- A call that gives true or false follows the replies it gets. Without a connection it gives
false, and nothing is sent. If it gives a result, that is true exactly if the session is connected
and all turns were accepted, and otherwise there is a reason. It gives a result whenever its turns
can be taken. -/
structure FollowsReplies (s : PopSession) (w : World) (Form : List Turn → Prop)
    (outcome : Outcome PopSession) : Prop where
  unconnected : s.isConnected w.network = false →
    outcome.result = .ok (.boolean false) ∧ outcome.world.network = w.network
  given : ∀ result, outcome.result = .ok result → ∃ b turns, result = .boolean b ∧
    s.Takes w.network turns outcome.world.network ∧ (s.isConnected w.network = true → Form turns) ∧
    (b = true ↔ s.isConnected w.network = true ∧ ∀ turn ∈ turns, turn.isAccepted = true) ∧
    (outcome.target.failureReason = none ↔ b = true)
  answered : ∀ turns net, s.Takes w.network turns net →
    (s.isConnected w.network = true → Form turns) → ∃ result, outcome.result = .ok result

variable {s : PopSession} {w : World}

theorem followsReplies_converseOutcome {exchange : Exchange Bool} {Form : List Turn → Prop}
    (hfollows : FollowsTurns exchange Form) :
    s.FollowsReplies w Form (s.converseOutcome w false exchange .boolean) := by
  rcases s.converseOutcome_cases w false exchange .boolean with
    ⟨hlink, houtcome⟩ | ⟨id, link, last, hconnection, hopen, hends⟩
  · have hnot : ¬s.isConnected w.network = true := by
      rw [isConnected, hlink]
      exact Bool.false_ne_true
    rw [houtcome]
    refine ⟨fun _ => ⟨rfl, rfl⟩, ?_, fun _ _ _ _ => ⟨_, rfl⟩⟩
    rintro result ⟨⟩
    exact ⟨false, [], rfl, .unconnected hlink, fun h => absurd h hnot,
      iff_of_false Bool.false_ne_true fun h => hnot h.1,
      iff_of_false (Option.some_ne_none _) Bool.false_ne_true⟩
  · have hconnected : s.isConnected w.network = true := isConnected_of_link hconnection hopen
    refine ⟨fun hnot => absurd (hconnected.symm.trans hnot) (by decide), ?given, ?answered⟩
    case given =>
      intro result hresult
      rcases hends with ⟨answer, hexchange, houtcome⟩ | ⟨error, -, houtcome⟩
      · rw [houtcome] at hresult ⊢
        cases hresult
        obtain ⟨turns, hform, htakes, hvalue, hreason⟩ := hfollows.given hexchange
        exact ⟨answer.value, turns, rfl, .connected hconnection hopen htakes, fun _ => hform,
          hvalue.trans (and_iff_right hconnected).symm, hreason⟩
      · rw [houtcome] at hresult
        cases hresult
    case answered =>
      intro turns net htakes hform
      -- Turns of the session are turns on the link of its open connection
      obtain ⟨last', htaken⟩ := htakes.of_link hconnection hopen
      obtain ⟨answer, hanswer⟩ := hfollows.answered (hform hconnected) htaken
      rw [converseOutcome_of_link hconnection hopen hanswer]
      exact ⟨_, rfl⟩

/-- **Logins and deletions follow the replies they get**: whatever the state of the session and the
bytes of its server, the result is true exactly if there was a connection and every status line was
read and had a plus in front, and there is a reason exactly if it is not. The password is sent only
to a server that accepted the user, and one line is read for each command. -/
theorem soft_failures_follow_replies (s : PopSession) (w : World) :
    (∀ user password : Option String,
      s.FollowsReplies w (Login (user.getD "") (password.getD ""))
        (PopOperation.authenticate.run s [.text user, .text password] w)) ∧
      ∀ message : Int32,
        s.FollowsReplies w (Deletion message) (PopOperation.delete.run s [.int message] w) :=
  ⟨fun user password =>
      followsReplies_converseOutcome
        (followsTurns_authenticate (user.getD "") (password.getD "")),
    fun message => followsReplies_converseOutcome (followsTurns_delete message)⟩

/-- A login whose password is refused, in a session that had failed before. -/
theorem refused_password_leaves_reason :
    let link : Link :=
      { unread := [], replies := [Text.Utf8.write "+OK\r\n", Text.Utf8.write "-ERR no\r\n"]
        ending := .close }
    let s : PopSession := { connection := some 0, failureReason := some "Not connected" }
    let w : World := { network := { connections := [{ server := 0, link }] } }
    let turns : List Turn := [⟨"user ann", some "+OK"⟩, ⟨"pass ", some "-ERR no"⟩]
    let outcome := PopOperation.authenticate.run s [.text (some "ann"), .text none] w
    (∃ net, s.Takes w.network turns net) ∧ Login "ann" "" turns ∧
      outcome.result = .ok (.boolean false) ∧ outcome.target.failureReason ≠ none := by
  intro link s w turns outcome
  let named := (ask "user ann" link).1
  have hnamed : ask "user ann" link = (named, .ok (some "+OK")) := by decide +kernel
  have hrefused : ask "pass " named = ((ask "pass " named).1, .ok (some "-ERR no")) := by
    decide +kernel
  have htakes : s.Takes w.network turns _ := .connected rfl rfl
    (Link.takes_cons_iff.mpr ⟨named, ask_eq_ok_iff.mp hnamed, ask_eq_ok_iff.mp hrefused⟩)
  have hlogin : Login "ann" "" turns := .accepted (by decide)
  have hfollows := (soft_failures_follow_replies s w).1 (some "ann") none
  obtain ⟨result, hresult⟩ := hfollows.answered turns _ htakes fun _ => hlogin
  obtain ⟨b, turns', rfl, -, -, -, hreason⟩ := hfollows.given result hresult
  have hleft : outcome.target.failureReason ≠ none := by decide +kernel
  obtain rfl : b = false := Bool.eq_false_iff.mpr fun htrue => hleft (hreason.mpr htrue)
  exact ⟨⟨_, htakes⟩, hlogin, hresult, hleft⟩

end PopSession

end JobScript
