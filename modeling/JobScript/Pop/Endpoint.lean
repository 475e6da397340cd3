import JobScript.Pop.Link

/-!
# Endpoints

Where a session connects to, and what comes of an attempt to get there. Looking up names, opening
links and securing them is up to the system, the libraries that secure links, and whoever answers,
so the answer to an attempt is not decided here: it may be any function of the endpoint and of the
attempts that were made before.

## Architecture

- `Endpoint`: a host, a port, and whether the link is to be secured
- `Pop.Opened`: a link that was opened, on which nothing was said yet
- `Pop.Outside`: how attempts are answered
-/

namespace JobScript

/-- Where a session connects to. -/
structure Endpoint where
  host : String
  port : Nat
  secure : Bool
  deriving DecidableEq, Repr

def Endpoint.render (e : Endpoint) : String :=
  (if e.secure then "pops" else "pop") ++ "://" ++ e.host ++ ":" ++ toString e.port

namespace Pop

/-- A link that was opened. -/
structure Opened where
  /-- Position of the server in the network -/
  server : Nat
  link : Link
  /-- Why the link could not be secured. Securing it is not over before something is read, so this
  shows only when the greeting is read. -/
  fault : Option SystemError := none
  /-- Nothing was said on it yet -/
  silent : link.heard = []
  deriving DecidableEq, Repr

/-- How an attempt to reach an endpoint is answered, by the attempts made before it. -/
abbrev Outside := List Endpoint → Endpoint → Except TransportError Opened

end Pop

end JobScript
