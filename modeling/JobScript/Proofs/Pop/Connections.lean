import JobScript.Proofs.Run.Idle

/-!
# The Life of a Connection

A connection is opened once, spoken on while it is open, and closed with one goodbye; a closed one
stays as it is. Connections are added at the end, so opening one leaves all others alone.

## Architecture

- `Connection.Becomes`: what one step of a session makes of a connection
- `Network.Evolves`: what it makes of all connections
- `Network.evolves_updateLink`, `Network.evolves_close`, `Network.Extends.evolves`: the three ways
- `Network.openLink_cases`, `Network.extends_openLink`: an attempt to connect
- `PopSession.extends_connect`: connecting adds connections
- `PopOperation.run_evolves`, `PopOperation.run_holdsKnown`: every operation of a session
-/

namespace JobScript

namespace Pop

/-! ## Section 1: One connection -/

/-- The link after an exchange of a session. None of the exchanges says goodbye. -/
inductive Link.Conversed (link : Link) : Link → Prop
  | authenticate (user password : String) : link.Conversed (Pop.authenticate user password link).1
  | delete (message : Int32) : link.Conversed (Pop.delete message link).1
  | list : link.Conversed (Pop.list link).1
  | noop : link.Conversed (Pop.noop link).1
  | retrieve (message : Int32) : link.Conversed (Pop.retrieve message link).1
  | stat : link.Conversed (Pop.stat link).1
  | top (message lines : Int32) : link.Conversed (Pop.top message lines link).1

namespace Connection

/-- The connection after one goodbye. -/
def part (c : Connection) : Connection :=
  { c with link := (c.link.send "quit").1, isOpen := false }

/-- The connection once it is closed: it gets its goodbye, unless it was closed before. -/
def closed (c : Connection) : Connection :=
  if c.isOpen then c.part else c

theorem isOpen_closed (c : Connection) : c.closed.isOpen = false := by
  unfold closed
  split
  · rfl
  · rename_i h
    exact Bool.eq_false_iff.mpr h

/-- Closing once is enough. -/
theorem closed_closed (c : Connection) : c.closed.closed = c.closed := by
  rw [closed, isOpen_closed]
  rfl

/-- What a step makes of a connection: nothing, an exchange, or one goodbye. -/
inductive Becomes (c : Connection) : Connection → Prop
  | untouched : c.Becomes c
  | conversed {link : Link} (hopen : c.isOpen = true) (hlink : c.link.Conversed link) :
      c.Becomes { c with link }
  | parted (hopen : c.isOpen = true) : c.Becomes c.part

theorem becomes_closed (c : Connection) : c.Becomes c.closed := by
  unfold closed
  split
  · rename_i hopen
    exact .parted hopen
  · exact .untouched

/-- A closed connection stays as it is. -/
theorem Becomes.eq_of_not_isOpen {c c' : Connection} (h : c.Becomes c') (hclosed : c.isOpen = false) :
    c' = c := by
  cases h with
  | untouched => rfl
  | conversed hopen hlink => exact absurd hopen (by rw [hclosed]; decide)
  | parted hopen => exact absurd hopen (by rw [hclosed]; decide)

end Connection

/-! ## Section 2: All connections -/

namespace Network

variable {net net' : Network} {id : ConnectionId}

theorem link?_eq_some_iff {link : Link} :
    net.link? id = some link ↔
      ∃ c, net.connections[id]? = some c ∧ c.isOpen = true ∧ c.link = link := by
  unfold link?
  cases net.connections[id]? with
  | none => simp
  | some c => simp

/-- Connections become what a step makes of them, and the server of a new one has heard nothing. -/
structure Evolves (net net' : Network) : Prop where
  becomes : ∀ (id : ConnectionId) (c : Connection), net.connections[id]? = some c →
    ∃ c', net'.connections[id]? = some c' ∧ c.Becomes c'
  new : ∀ (id : ConnectionId) (c' : Connection), net.connections[id]? = none →
    net'.connections[id]? = some c' → c'.link.heard = []

theorem Evolves.length_le (h : net.Evolves net') :
    net.connections.length ≤ net'.connections.length := by
  -- Otherwise some connection would be missing
  apply Nat.le_of_not_lt
  intro hlt
  obtain ⟨c', hc', -⟩ := h.becomes net'.connections.length _ (List.getElem?_eq_getElem hlt)
  exact absurd (List.getElem?_eq_some_iff.mp hc').1 (Nat.lt_irrefl _)

/-- Connections that are kept in place one by one. -/
theorem evolves_of_map {change : ConnectionId → Connection → Connection}
    (hchange : ∀ id (c : Connection), net.connections[id]? = some c → c.Becomes (change id c))
    (h : ∀ id : ConnectionId, net'.connections[id]? = (net.connections[id]?).map (change id)) :
    net.Evolves net' where
  becomes := by
    intro id c hc
    refine ⟨change id c, ?_, hchange id c hc⟩
    rw [h, hc, Option.map_some]
  new := by
    intro id c' hnone hc'
    rw [h, hnone] at hc'
    cases hc'

theorem evolves_of_eq (h : net'.connections = net.connections) : net.Evolves net' :=
  evolves_of_map (fun _ _ _ => .untouched) fun id => by rw [h, Option.map_id']

theorem getElem?_updateLink (net : Network) (id : ConnectionId) (link : Link) (i : ConnectionId) :
    (net.updateLink id link).connections[i]? =
      (net.connections[i]?).map fun c => if i = id then { c with link } else c := by
  rw [updateLink, List.getElem?_modify]
  simp only [eq_comm (a := id)]
  rfl

theorem getElem?_close (net : Network) (id i : ConnectionId) :
    (net.close id).connections[i]? =
      (net.connections[i]?).map fun c => if i = id then c.closed else c := by
  rw [close, List.getElem?_modify]
  simp only [eq_comm (a := id)]
  rfl

theorem link?_updateLink {link link' : Link} (hlink : net.link? id = some link) :
    (net.updateLink id link').link? id = some link' := by
  obtain ⟨c, hc, hopen, -⟩ := link?_eq_some_iff.mp hlink
  rw [link?_eq_some_iff]
  refine ⟨{ c with link := link' }, ?_, hopen, rfl⟩
  rw [getElem?_updateLink, hc, Option.map_some, if_pos rfl]

/-- An exchange over an open connection. -/
theorem evolves_updateLink {link link' : Link} (hlink : net.link? id = some link)
    (hconversed : link.Conversed link') : net.Evolves (net.updateLink id link') := by
  obtain ⟨c, hc, hopen, rfl⟩ := link?_eq_some_iff.mp hlink
  refine evolves_of_map ?_ (getElem?_updateLink net id link')
  intro i c' hc'
  split
  · rename_i hi
    subst hi
    obtain rfl := Option.some.inj (hc.symm.trans hc')
    exact .conversed hopen hconversed
  · exact .untouched

theorem evolves_close (net : Network) (id : ConnectionId) : net.Evolves (net.close id) := by
  refine evolves_of_map ?_ (getElem?_close net id)
  intro i c _
  split
  · exact c.becomes_closed
  · exact .untouched

/-! ## Section 3: Opening -/

/-- Reading tells the server nothing. -/
theorem heard_readLine (link : Link) : link.readLine.1.heard = link.heard := by
  unfold Link.readLine
  split
  · rfl
  · split
    · rfl
    · split
      · split <;> rfl
      · rfl

theorem heard_greet {opened : Opened} {link : Link} (h : greet opened = .ok link) :
    link.heard = [] := by
  have hread := heard_readLine opened.link
  rw [opened.silent] at hread
  unfold greet at h
  dsimp only at h
  split at h
  · cases h
  · split at h
    · cases h
    · rename_i read line hline
      split at h
      · cases h
      · obtain rfl := Except.ok.inj h
        rw [hline] at hread
        exact hread

/-- The second network has the connections of the first, and maybe new ones on which nothing was
said yet. -/
def Extends (net net' : Network) : Prop :=
  ∃ opened : List Connection, (∀ c ∈ opened, c.link.heard = []) ∧
    net'.connections = net.connections ++ opened

theorem Extends.of_eq (h : net'.connections = net.connections) : net.Extends net' :=
  ⟨[], List.forall_mem_nil _, by rw [h, List.append_nil]⟩

theorem Extends.getElem? (h : net.Extends net') {c : Connection}
    (hc : net.connections[id]? = some c) : net'.connections[id]? = some c := by
  obtain ⟨opened, -, hopened⟩ := h
  rw [hopened, List.getElem?_append_left (List.getElem?_eq_some_iff.mp hc).1, hc]

theorem Extends.evolves (h : net.Extends net') : net.Evolves net' where
  becomes := fun _ c hc => ⟨c, h.getElem? hc, .untouched⟩
  new := by
    obtain ⟨opened, hheard, hopened⟩ := h
    intro id c' hnone hc'
    rw [hopened, List.getElem?_append_right (List.getElem?_eq_none_iff.mp hnone)] at hc'
    exact hheard c' (List.mem_of_getElem? hc')

/-- Another connection at the end, after an attempt to connect. -/
def opening (net : Network) (endpoint : Endpoint) (connection : Connection) : Network :=
  { net with
    attempts := net.attempts ++ [endpoint]
    connections := net.connections ++ [connection] }

/-- All that can come of an attempt to connect: there is no link, or its greeting is not taken and
the link is shut without a goodbye, or the connection is open. -/
theorem openLink_cases (net : Network) (endpoint : Endpoint) :
    (∃ error reason, net.outside net.attempts endpoint = .error error ∧
      net.openLink endpoint =
        ({ net with attempts := net.attempts ++ [endpoint] }, .error reason)) ∨
      ∃ opened, net.outside net.attempts endpoint = .ok opened ∧
        ((∃ reason, greet opened = .error reason ∧
            net.openLink endpoint =
              (net.opening endpoint ⟨opened.server, opened.link, false⟩, .error reason)) ∨
          ∃ link, greet opened = .ok link ∧
            net.openLink endpoint =
              (net.opening endpoint ⟨opened.server, link, true⟩, .ok net.connections.length)) := by
  unfold openLink
  cases net.outside net.attempts endpoint with
  | error error => exact .inl ⟨error, _, rfl, rfl⟩
  | ok opened =>
    refine .inr ⟨opened, rfl, ?_⟩
    dsimp only
    cases greet opened with
    | error reason => exact .inl ⟨reason, rfl, rfl⟩
    | ok link => exact .inr ⟨link, rfl, rfl⟩

theorem Extends.opening (net : Network) (endpoint : Endpoint) {connection : Connection}
    (hsilent : connection.link.heard = []) : net.Extends (net.opening endpoint connection) :=
  ⟨[connection], List.forall_mem_singleton.mpr hsilent, rfl⟩

/-- An attempt to connect adds at most one connection, however it is answered; if it succeeds, the
connection is there. -/
theorem extends_openLink (net : Network) (endpoint : Endpoint) :
    net.Extends (net.openLink endpoint).1 ∧
      ∀ id, (net.openLink endpoint).2 = .ok id →
        id < (net.openLink endpoint).1.connections.length := by
  rcases net.openLink_cases endpoint with
    ⟨error, reason, -, hopen⟩ | ⟨opened, -, ⟨reason, -, hopen⟩ | ⟨link, hgreet, hopen⟩⟩
  · rw [hopen]
    exact ⟨.of_eq rfl, fun id hid => by cases hid⟩
  · rw [hopen]
    exact ⟨.opening net endpoint opened.silent, fun id hid => by cases hid⟩
  · rw [hopen]
    refine ⟨.opening net endpoint (heard_greet hgreet), ?_⟩
    intro id hid
    obtain rfl := Except.ok.inj hid
    simp [Network.opening]

end Network

end Pop

/-! ## Section 4: Sessions -/

namespace PopSession

open Pop

variable {s : PopSession} {w : World}

/-- Connecting adds connections and leaves those that were there. Afterwards the session holds what
it held or a connection that is there. -/
theorem extends_connect (s : PopSession) (net : Network) (host : String) (port : Int32)
    (secure : Bool) :
    net.Extends (s.connect net host port secure).2.1 ∧
      ∀ id, (s.connect net host port secure).1.connection = some id → s.connection = some id ∨
        id < (s.connect net host port secure).2.1.connections.length := by
  unfold connect
  split
  · obtain ⟨hextends, hlt⟩ := net.extends_openLink ⟨host, port.toInt.toNat, secure⟩
    dsimp only
    split
    · rename_i net' id hopen
      rw [hopen] at hextends hlt
      refine ⟨hextends, ?_⟩
      intro id' hid'
      obtain rfl := Option.some.inj hid'
      exact .inr (hlt _ rfl)
    · rename_i net' reason hopen
      rw [hopen] at hextends
      exact ⟨hextends, fun id hid => by cases hid⟩
  · exact ⟨.of_eq rfl, fun id hid => .inl hid⟩

theorem converseOutcome_evolves {α : Type} {unconnected : α} {exchange : Exchange α}
    {result : α → Result} (hexchange : ∀ link : Link, link.Conversed (exchange link).1) :
    w.network.Evolves (s.converseOutcome w unconnected exchange result).world.network := by
  rcases s.converseOutcome_cases w unconnected exchange result with
    ⟨-, houtcome⟩ | ⟨id, link, link', -, hlink, hends⟩
  · rw [houtcome]
    exact Network.evolves_of_eq rfl
  · -- The link is put back, whether the exchange failed or not
    have hconversed := hexchange link
    rcases hends with ⟨answer, hends, houtcome⟩ | ⟨error, hends, houtcome⟩
    all_goals
      rw [hends] at hconversed
      rw [houtcome]
      exact Network.evolves_updateLink hlink hconversed

/-- What the session holds after an operation it held before, or it is there. -/
def HoldsKnown (s : PopSession) (outcome : Outcome PopSession) : Prop :=
  ∀ id, outcome.target.connection = some id → s.connection = some id ∨
    id < outcome.world.network.connections.length

/-- Exchanges leave a session its connection. -/
theorem connection_converseOutcome {α : Type} {unconnected : α} {exchange : Exchange α}
    {result : α → Result} :
    (s.converseOutcome w unconnected exchange result).target.connection = s.connection := by
  rcases s.converseOutcome_cases w unconnected exchange result with
    ⟨-, houtcome⟩ | ⟨id, link, link', -, -, ⟨answer, -, houtcome⟩ | ⟨error, -, houtcome⟩⟩
  all_goals rw [houtcome]

end PopSession

namespace PopOperation

open Pop

/-- The operation opens a connection. -/
def connects : PopOperation → Bool
  | .connect | .connectSecurely => true
  | _ => false

variable {op : PopOperation} (s : PopSession) (arguments : List Value) (w : World)

/-- Operations that connect add connections. -/
theorem run_extends (hop : op.connects = true) :
    w.network.Extends (op.run s arguments w).world.network := by
  have hself : w.network.Extends w.network := .of_eq rfl
  cases op with
  | connect | connectSecurely =>
    apply PopSession.withArguments_of (P := (w.network.Extends ·.world.network)) fun _ => hself
    rintro ⟨host, port, secure⟩
    exact (s.extends_connect w.network host port secure).1
  | _ => cases hop

variable (op) in
/-- **Every operation of a session** keeps to the life of connections. -/
theorem run_evolves : w.network.Evolves (op.run s arguments w).world.network := by
  have hself : w.network.Evolves w.network := Network.evolves_of_eq rfl
  have hwith {α : Type} {read : Except Cause α} {go : α → Outcome PopSession}
      (hgo : ∀ a, w.network.Evolves (go a).world.network) :
      w.network.Evolves (s.withArguments w read go).world.network :=
    PopSession.withArguments_of (P := (w.network.Evolves ·.world.network)) (fun _ => hself) hgo
  cases op with
  | connect | connectSecurely => exact (run_extends s arguments w rfl).evolves
  | authenticate => exact hwith fun _ => PopSession.converseOutcome_evolves fun _ => .authenticate _ _
  | delete => exact hwith fun _ => PopSession.converseOutcome_evolves fun _ => .delete _
  | disconnect =>
    show w.network.Evolves (s.connection.elim w.network w.network.close)
    cases s.connection with
    | none => exact hself
    | some id => exact w.network.evolves_close id
  | failureReason => exact hself
  | list => exact PopSession.converseOutcome_evolves fun _ => .list
  | noop => exact PopSession.converseOutcome_evolves fun _ => .noop
  | retrieve => exact hwith fun _ => PopSession.converseOutcome_evolves fun _ => .retrieve _
  | stat => exact PopSession.converseOutcome_evolves fun _ => .stat
  | top => exact hwith fun _ => PopSession.converseOutcome_evolves fun _ => .top _ _

variable (op) in
/-- After an operation, a session holds what it held or a connection that is there. -/
theorem run_holdsKnown : s.HoldsKnown (op.run s arguments w) := by
  have hconversed {α : Type} {unconnected : α} {exchange : Exchange α} {result : α → Result} :
      s.HoldsKnown (s.converseOutcome w unconnected exchange result) := by
    intro id hid
    rw [PopSession.connection_converseOutcome] at hid
    exact .inl hid
  have hwith {α : Type} {read : Except Cause α} {go : α → Outcome PopSession}
      (hgo : ∀ a, s.HoldsKnown (go a)) : s.HoldsKnown (s.withArguments w read go) :=
    PopSession.withArguments_of (fun _ _ hid => .inl hid) hgo
  cases op with
  | connect | connectSecurely =>
    apply hwith
    rintro ⟨host, port, secure⟩
    exact (s.extends_connect w.network host port secure).2
  | authenticate | delete | retrieve | top => exact hwith fun _ => hconversed
  | list | noop | stat => exact hconversed
  | disconnect | failureReason => exact fun _ hid => .inl hid

end PopOperation

end JobScript
