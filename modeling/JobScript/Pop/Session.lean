import JobScript.Pop.Network

/-!
# Mail Sessions

A session variable remembers where it last connected, the connection it uses, and why its last
operation failed. Sessions share connections by number: closing one closes it for every session
that uses it.

A server that refuses, or cannot be reached, is a failure in band: the operation gives its failure
value and leaves a reason. Only an open connection that breaks is an error.
-/

namespace JobScript

open Pop

/-- A mail-retrieval session. -/
structure PopSession where
  endpoint : Option Endpoint := none
  connection : Option ConnectionId := none
  failureReason : Option String := none
  deriving DecidableEq, Repr

namespace PopSession

/-- The link of the session's connection, while it is open. -/
def link? (s : PopSession) (net : Network) : Option Link :=
  s.connection.bind net.link?

def isConnected (s : PopSession) (net : Network) : Bool :=
  (s.link? net).isSome

def greatestPort : Int := 65535

/-- Connect to a host, and say whether that worked. A connection the session had before is left to
the sessions that still share it. -/
def connect (s : PopSession) (net : Network) (host : String) (port : Int32) (secure : Bool) :
    PopSession × Network × Bool :=
  if 0 ≤ port.toInt ∧ port.toInt ≤ greatestPort then
    let endpoint : Endpoint := ⟨host, port.toInt.toNat, secure⟩
    match net.openLink endpoint with
    -- Either way the old connection is no longer this session's
    | (net, .ok id) => (⟨some endpoint, some id, none⟩, net, true)
    | (net, .error reason) => (⟨some endpoint, none, some reason⟩, net, false)
  else
    ({ s with failureReason := some s!"Invalid port number {port.toInt}" }, net, false)

/-- Close the session's connection, for every session that shares it. -/
def disconnect (s : PopSession) (net : Network) : PopSession × Network :=
  ({ s with failureReason := none }, s.connection.elim net net.close)

/-- Run an exchange over the session's connection. Without one, the value for that case is given
and the reason says so. -/
def converse {α : Type} (s : PopSession) (net : Network) (unconnected : α) (exchange : Exchange α) :
    PopSession × Network × Except TransportError α :=
  match s.connection with
  | none => ({ s with failureReason := some "Not connected" }, net, .ok unconnected)
  | some id =>
    match net.link? id with
    | none => ({ s with failureReason := some "Not connected" }, net, .ok unconnected)
    | some link =>
      match exchange link with
      -- Even an exchange that failed has sent and read something
      | (link, .error error) =>
        ({ s with failureReason := none }, net.updateLink id link, .error error)
      | (link, .ok answer) =>
        ({ s with failureReason := answer.reason }, net.updateLink id link, .ok answer.value)

def render (s : PopSession) : String :=
  match s.endpoint with
  | none => "null"
  | some endpoint => endpoint.render

end PopSession

end JobScript
