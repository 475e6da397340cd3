import JobScript.Pop.Endpoint
import JobScript.Pop.Host
import JobScript.Pop.ServerName

/-!
# One Machine

A machine that is on no network: the only servers it reaches are its own. They speak in the clear,
and each of them takes one connection. This is one way in which attempts to connect are answered;
what holds of all sessions holds whatever the answers are.

## Architecture

- `Server`: a port, and the plan of the one connection it takes
- `Machine.placeFault?`: why a host is not reached
- `Machine.reach`: the server behind an endpoint
- `Machine.answer`: what comes of an attempt to connect
-/

namespace JobScript.Pop

/-- A server that waits for its connection. -/
structure Server where
  port : Nat
  /-- Sent when a client connects -/
  greeting : Bytes
  replies : List Bytes
  ending : Ending
  deriving DecidableEq, Repr

/-- The link a client gets from the server. -/
def Server.link (s : Server) : Link where
  unread := s.greeting
  replies := s.replies
  ending := s.ending

namespace Machine

/-- Why nothing is reached at a place, unless it is this machine. -/
def placeFault? : Host.Place → Option TransportError
  | .here => none
  | .elsewhere => some (.connect .networkUnreachable)
  | .unanswerable => some (.connect .addressNotAvailable)
  | .onSomeLink => some (.connect .invalidArgument)
  | .unknownName => some (.resolve .noAnswer)
  | .nowhere => some (.resolve .unknownName)
  | .zeroByte => some (.resolve .zeroByte)

/-- The position of the server behind an endpoint, and the server. The host is judged first. -/
def reach (servers : List Server) (endpoint : Endpoint) : Except TransportError (Nat × Server) :=
  match placeFault? (Host.place endpoint.host) with
  | some error => .error error
  | none =>
    match servers.zipIdx.find? (·.1.port == endpoint.port) with
    | none => .error (.connect .networkUnreachable)
    | some (server, i) => .ok (i, server)

/-- An attempt reached the server at a position. -/
def reaches (servers : List Server) (i : Nat) (attempt : Endpoint) : Bool :=
  match reach servers attempt with
  | .ok (j, _) => i = j
  | .error _ => false

/-- Why a link to a server that speaks in the clear cannot be secured. -/
def securingFault (link : Link) : SystemError :=
  if !link.unread.isEmpty then .invalidContentType
  else if link.hasEnded then .unexpectedEnd
  else .temporarilyUnavailable

/-- What comes of an attempt to connect. A server has its connection as soon as it is reached, even
if that connection is then given up. -/
def answer (servers : List Server) : Outside := fun earlier endpoint =>
  match reach servers endpoint with
  | .error error => .error error
  | .ok (i, server) =>
    if earlier.any (reaches servers i) then .error (.connect .connectionRefused)
    -- The name is looked at only once the server is reached
    else if endpoint.secure && !ServerName.isValid endpoint.host then
      .error (.invalidServerName endpoint.host)
    else
      .ok {
        server := i
        link := server.link
        fault := if endpoint.secure then some (securingFault server.link) else none
        silent := rfl }

end Machine

end JobScript.Pop
