import JobScript.Proofs.Pop.Turns

/-!
# Attempts to Connect

An attempt to connect tells what came of it, by its result and by the reason it leaves. It takes
the session off the connection it had, whether it succeeds or not. Only a number that is no port is
turned down before that.

## Architecture

- `greetingFault?_eq_none_iff`: the judgement of a greeting
- `Network.Greets`, `Network.openLink_ok_iff_greets`: endpoints that a connection can be opened to
- `PopSession.IsPort`, `PopSession.connect_of_opened` and its siblings: the three ways out
- `PopSession.connect_result_follows_greeting`: what an attempt tells
-/

namespace JobScript

open Pop

/-! ## Section 1: Greetings -/

namespace Pop

theorem greetingFault?_eq_none_iff {line : Option String} :
    greetingFault? line = none ↔ accepts line = true := by
  cases line with
  | none => exact iff_of_false (Option.some_ne_none _) Bool.false_ne_true
  | some text =>
    show greetingFault? (some text) = none ↔ startsWith text '+' = true
    cases hplus : startsWith text '+' with
    | true => simp [greetingFault?, not_isEmpty_of_startsWith hplus, hplus]
    | false => by_cases hempty : text.isEmpty <;> simp [greetingFault?, hempty, hplus]

namespace Network

variable {net net' : Network} {endpoint : Endpoint} {id : ConnectionId}

/-- A connection that was opened is open. -/
theorem isSome_link?_of_openLink (h : net.openLink endpoint = (net', .ok id)) :
    (net'.link? id).isSome = true := by
  rcases net.openLink_cases endpoint with
    ⟨error, reason, -, hopen⟩ | ⟨opened, -, ⟨reason, -, hopen⟩ | ⟨link, -, hopen⟩⟩
  all_goals cases hopen.symm.trans h
  simp [link?, opening]

/-- The endpoint is reached, the link is secured if that was asked for, and its greeting has a plus
in front. -/
def Greets (net : Network) (endpoint : Endpoint) : Prop :=
  ∃ opened, net.outside net.attempts endpoint = .ok opened ∧ opened.fault = none ∧
    ∃ line, opened.link.readLine.2 = .ok line ∧ accepts line = true

/-- A greeting is taken exactly if nothing is wrong with the link, and its line is read and
accepts. -/
theorem greet_ok_iff {opened : Opened} :
    (∃ link, greet opened = .ok link) ↔
      opened.fault = none ∧ ∃ line, opened.link.readLine.2 = .ok line ∧ accepts line = true := by
  constructor
  · rintro ⟨link, hgreet⟩
    simp only [greet] at hgreet
    split at hgreet
    · cases hgreet
    · rename_i hfault
      split at hgreet
      · cases hgreet
      · rename_i read line hread
        split at hgreet
        · cases hgreet
        · rename_i hpositive
          exact ⟨hfault, line, congrArg Prod.snd hread, greetingFault?_eq_none_iff.mp hpositive⟩
  · rintro ⟨hfault, line, hline, haccepts⟩
    rcases hread : opened.link.readLine with ⟨read, answer⟩
    obtain rfl : answer = .ok line := (congrArg Prod.snd hread).symm.trans hline
    refine ⟨read, ?_⟩
    simp only [greet, hfault, hread, greetingFault?_eq_none_iff.mpr haccepts]

/-- A connection is opened exactly to an endpoint that greets. -/
theorem openLink_ok_iff_greets (net : Network) (endpoint : Endpoint) :
    (∃ id, (net.openLink endpoint).2 = .ok id) ↔ net.Greets endpoint := by
  rcases net.openLink_cases endpoint with ⟨error, reason, hanswer, hopen⟩ |
    ⟨opened, hanswer, ⟨reason, hgreet, hopen⟩ | ⟨link, hgreet, hopen⟩⟩
  · rw [hopen]
    refine iff_of_false (fun ⟨id, hid⟩ => by cases hid) ?_
    rintro ⟨opened, hopened, -⟩
    cases hanswer.symm.trans hopened
  · rw [hopen]
    refine iff_of_false (fun ⟨id, hid⟩ => by cases hid) ?_
    rintro ⟨opened', hopened, hgreets⟩
    obtain rfl := Except.ok.inj (hanswer.symm.trans hopened)
    obtain ⟨link, hlink⟩ := greet_ok_iff.mpr hgreets
    cases hgreet.symm.trans hlink
  · rw [hopen]
    exact iff_of_true ⟨_, rfl⟩ ⟨opened, hanswer, greet_ok_iff.mp ⟨link, hgreet⟩⟩

end Network

end Pop

/-! ## Section 2: Attempts -/

namespace PopSession

variable {net net' : Network} {host : String} {port : Int32} {secure : Bool}

/-- The number can be that of a port. -/
def IsPort (port : Int32) : Prop :=
  0 ≤ port.toInt ∧ port.toInt ≤ 65535

instance (port : Int32) : Decidable (IsPort port) :=
  inferInstanceAs (Decidable (_ ∧ _))

theorem connect_of_not_isPort (s : PopSession) (hport : ¬IsPort port) :
    s.connect net host port secure =
      ({ s with failureReason := some s!"Invalid port number {port.toInt}" }, net, false) :=
  if_neg hport

theorem connect_of_opened (s : PopSession) {id : ConnectionId} (hport : IsPort port)
    (hopen : net.openLink ⟨host, port.toInt.toNat, secure⟩ = (net', .ok id)) :
    s.connect net host port secure =
      (⟨some ⟨host, port.toInt.toNat, secure⟩, some id, none⟩, net', true) := by
  have hrange : 0 ≤ port.toInt ∧ port.toInt ≤ greatestPort := hport
  rw [connect, if_pos hrange]
  simp only [hopen]

theorem connect_of_not_opened (s : PopSession) {reason : String} (hport : IsPort port)
    (hopen : net.openLink ⟨host, port.toInt.toNat, secure⟩ = (net', .error reason)) :
    s.connect net host port secure =
      (⟨some ⟨host, port.toInt.toNat, secure⟩, none, some reason⟩, net', false) := by
  have hrange : 0 ≤ port.toInt ∧ port.toInt ≤ greatestPort := hport
  rw [connect, if_pos hrange]
  simp only [hopen]

/-- **An attempt to connect tells what came of it**, however attempts are answered: there is a
reason exactly if it failed, and afterwards the session is connected exactly if it succeeded. Only a
number that is no port leaves the session the connection it had. The attempt succeeds exactly if the
number is that of a port and the endpoint is reached, secured if that was asked for, and greets with
a plus in front. -/
theorem connect_result_follows_greeting (s : PopSession) (net : Network) (host : String)
    (port : Int32) (secure : Bool) :
    let attempt := s.connect net host port secure
    (attempt.1.failureReason = none ↔ attempt.2.2 = true) ∧
      (attempt.1.isConnected attempt.2.1 = true ↔
        attempt.2.2 = true ∨ ¬IsPort port ∧ s.isConnected net = true) ∧
      (¬IsPort port →
        attempt.2.2 = false ∧ attempt.2.1 = net ∧ attempt.1.connection = s.connection) ∧
      (attempt.2.2 = true ↔ IsPort port ∧ net.Greets ⟨host, port.toInt.toNat, secure⟩) := by
  intro attempt
  -- In range, the old connection is let go before a new one is asked for
  by_cases hport : IsPort port
  · have hstays : ¬(¬IsPort port ∧ s.isConnected net = true) := fun h => h.1 hport
    have hgreets := net.openLink_ok_iff_greets ⟨host, port.toInt.toNat, secure⟩
    rcases hopen : net.openLink ⟨host, port.toInt.toNat, secure⟩ with ⟨net', reason | id⟩
    · have hattempt : attempt = _ := s.connect_of_not_opened hport hopen
      rw [hattempt]
      refine ⟨iff_of_false (Option.some_ne_none reason) Bool.false_ne_true,
        iff_of_false Bool.false_ne_true ?_, fun h => absurd hport h,
        iff_of_false Bool.false_ne_true ?_⟩
      · rintro (hfalse | h)
        · cases hfalse
        · exact hstays h
      · rintro ⟨-, hgreeted⟩
        obtain ⟨id, hid⟩ := hgreets.mpr hgreeted
        rw [hopen] at hid
        cases hid
    · have hattempt : attempt = _ := s.connect_of_opened hport hopen
      rw [hattempt]
      exact ⟨iff_of_true rfl rfl,
        iff_of_true (Network.isSome_link?_of_openLink hopen) (.inl rfl),
        fun h => absurd hport h,
        iff_of_true rfl ⟨hport, hgreets.mp ⟨id, congrArg Prod.snd hopen⟩⟩⟩
  · have hattempt : attempt = _ := s.connect_of_not_isPort hport
    rw [hattempt]
    refine ⟨iff_of_false (Option.some_ne_none _) Bool.false_ne_true, ?_, fun _ => ⟨rfl, rfl, rfl⟩,
      iff_of_false Bool.false_ne_true fun h => hport h.1⟩
    constructor
    · exact fun hconnected => .inr ⟨hport, hconnected⟩
    · rintro (hfalse | ⟨-, hconnected⟩)
      · cases hfalse
      · exact hconnected

/-- A server is not ready for the first attempt. It greets the second one on a secured link, and the
session keeps this connection when it is given a number that is no port. -/
theorem greeted_session_keeps_connection :
    let link : Link := { unread := Text.Utf8.write "+OK\r\n", replies := [], ending := .close }
    let net : Network :=
      { outside := fun earlier _ =>
          if earlier.isEmpty then .error (.connect .connectionRefused)
          else .ok { server := 0, link, silent := rfl } }
    let first := ({} : PopSession).connect net "mail.example.com" 995 true
    let second := first.1.connect first.2.1 "mail.example.com" 995 true
    let third := second.1.connect second.2.1 "mail.example.com" 70000 true
    (first.2.2 = false ∧ first.1.failureReason ≠ none) ∧
      (first.2.1.Greets ⟨"mail.example.com", 995, true⟩ ∧ second.2.2 = true ∧
        second.1.failureReason = none ∧ second.1.isConnected second.2.1 = true) ∧
      ¬IsPort 70000 ∧ third.2.2 = false ∧ third.2.1 = second.2.1 ∧
        third.1.connection = second.1.connection := by
  intro link net first second third
  have hnoPort : ¬IsPort 70000 := by decide
  obtain ⟨hreason, -, -, -⟩ :=
    connect_result_follows_greeting {} net "mail.example.com" 995 true
  obtain ⟨hreason', hconnected, -, hsucceeds⟩ :=
    connect_result_follows_greeting first.1 first.2.1 "mail.example.com" 995 true
  obtain ⟨-, -, hstays, -⟩ :=
    connect_result_follows_greeting second.1 second.2.1 "mail.example.com" 70000 true
  have hrefused : first.2.2 = false := rfl
  have hgreets : first.2.1.Greets ⟨"mail.example.com", 995, true⟩ :=
    ⟨{ server := 0, link, silent := rfl }, rfl, rfl, some "+OK", by decide +kernel, rfl⟩
  have hsucceeded : second.2.2 = true := hsucceeds.mpr ⟨by decide, hgreets⟩
  refine ⟨⟨hrefused, fun hnone => ?_⟩,
    ⟨hgreets, hsucceeded, hreason'.mpr hsucceeded, hconnected.mpr (.inl hsucceeded)⟩, hnoPort,
    hstays hnoPort⟩
  exact Bool.false_ne_true (hrefused.symm.trans (hreason.mp hnone))

/-- After a failed attempt with a number that is no port, a session is still connected. -/
theorem failed_attempt_still_connected :
    let server : Server :=
      { port := 110, greeting := Text.Utf8.write "+OK\r\n", replies := [], ending := .close }
    let attempt := ({} : PopSession).connect { servers := [server] } "127.0.0.1" 110 false
    let further := attempt.1.connect attempt.2.1 "127.0.0.1" 70000 false
    further.2.2 = false ∧ further.1.failureReason = some "Invalid port number 70000" ∧
      further.1.isConnected further.2.1 = true := by
  decide +kernel

end PopSession

end JobScript
