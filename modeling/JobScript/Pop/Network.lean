import JobScript.Pop.Exchange
import JobScript.Pop.Machine

/-!
# Connections

What a run opens to the outside. Connections stay in the order in which they were opened; a closed
one keeps what its server heard.

## Architecture

- `Network`: how the outside answers, what was attempted, and the connections that came of it
- `Network.greet`: the greeting of a new link
- `Network.openLink`: greeting included, a new connection or the reason for none
- `Network.link?`, `Network.updateLink`, `Network.close`: a connection by its number
-/

namespace JobScript.Pop

/-- The number of a connection, in the order of opening. -/
abbrev ConnectionId := Nat

/-- A connection that was opened. -/
structure Connection where
  /-- Position of the server in the network -/
  server : Nat
  link : Link
  isOpen : Bool := true
  deriving DecidableEq, Repr

/-- The outside as a run meets it, and what the run did there. -/
structure Network where
  /-- The servers of this machine, by their positions -/
  servers : List Server := []
  /-- How attempts to connect are answered: by these servers, unless other machines are in reach -/
  outside : Outside := Machine.answer servers
  /-- The attempts made so far, in order -/
  attempts : List Endpoint := []
  connections : List Connection := []

namespace Network

/-! ## Section 1: Opening -/

/-- Read the greeting of a new link: the link that is ready for commands, or the reason why the
connection is given up. -/
def greet (opened : Opened) : Except String Link :=
  let unread (error : TransportError) : String :=
    "Unable to read greeting line:  " ++ error.message
  match opened.fault with
  | some cause => .error (unread (.read cause))
  | none =>
    match opened.link.readLine with
    | (_, .error error) => .error (unread error)
    | (link, .ok line) =>
      match greetingFault? line with
      | some reason => .error reason
      | none => .ok link

/-- Open a connection: its number, or the reason why there is none. -/
def openLink (net : Network) (endpoint : Endpoint) : Network × Except String ConnectionId :=
  let attempts := net.attempts ++ [endpoint]
  match net.outside net.attempts endpoint with
  | .error error =>
    ({ net with attempts },
      .error s!"Unable to connect to {endpoint.host}:{endpoint.port}:  {error.message}")
  | .ok opened =>
    let add (link : Link) (isOpen : Bool) : Network :=
      { net with attempts, connections := net.connections ++ [⟨opened.server, link, isOpen⟩] }
    match greet opened with
    -- The connection is shut without a goodbye
    | .error reason => (add opened.link false, .error reason)
    | .ok link => (add link true, .ok net.connections.length)

/-! ## Section 2: Open connections -/

/-- The link of a connection that is open. -/
def link? (net : Network) (id : ConnectionId) : Option Link :=
  match net.connections[id]? with
  | some connection => if connection.isOpen then some connection.link else none
  | none => none

/-- Replace the link of a connection. -/
def updateLink (net : Network) (id : ConnectionId) (link : Link) : Network :=
  { net with
    connections := net.connections.modify id fun connection => { connection with link } }

/-- Say goodbye and close a connection; whether the goodbye arrives does not matter. -/
def close (net : Network) (id : ConnectionId) : Network :=
  { net with
    connections := net.connections.modify id fun connection =>
      if connection.isOpen then
        { connection with link := (connection.link.send "quit").1, isOpen := false }
      else connection }

/-- Command lines that the server at a position heard. -/
def heardBy (net : Network) (i : Nat) : List Bytes :=
  (net.connections.filter (·.server == i)).flatMap (·.link.heard)

end Network

end JobScript.Pop
