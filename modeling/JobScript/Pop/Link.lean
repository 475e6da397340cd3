import JobScript.Pop.Framing
import JobScript.Text.Utf8

/-!
# Links to Servers

A link is an open line to a server that answers by a plan: for every command line it hears, it
sends the next reply of the plan. When the plan is used up the server closes its side, falls
silent, or breaks the link at the next command.

## Architecture

- `TransportError`: how a link fails, and its wording
- `Link.send`: a command goes out; the server hears its lines
- `Link.readLine`: the next line of the server, or the end of its stream
- `Link.readUntil`: lines up to one that ends a reply
-/

namespace JobScript.Pop

/-! ## Section 1: Transport errors -/

/-- What the system, or the library that secures links, reports when a link cannot be used. -/
inductive SystemError where
  | networkUnreachable
  | addressNotAvailable
  | invalidArgument
  | connectionRefused
  | temporarilyUnavailable
  | connectionReset
  | brokenPipe
  /-- The first bytes of the server are no secured ones -/
  | invalidContentType
  | unexpectedEnd
  /-- Any other report, in its own words -/
  | other (report : String)
  deriving DecidableEq, Repr

def SystemError.message : SystemError → String
  | .networkUnreachable => "Network is unreachable (os error 101)"
  | .addressNotAvailable => "Cannot assign requested address (os error 99)"
  | .invalidArgument => "Invalid argument (os error 22)"
  | .connectionRefused => "Connection refused (os error 111)"
  | .temporarilyUnavailable => "Resource temporarily unavailable (os error 11)"
  | .connectionReset => "Connection reset by peer (os error 104)"
  | .brokenPipe => "Broken pipe (os error 32)"
  | .invalidContentType => "received corrupt message of type InvalidContentType"
  | .unexpectedEnd => "unexpected end of file"
  | .other report => report

/-- Why no address is found for a host. -/
inductive LookupError where
  /-- There is no name service to ask -/
  | noAnswer
  /-- The host is no name that could be asked about -/
  | unknownName
  | zeroByte
  /-- Any other report, in its own words -/
  | other (report : String)
  deriving DecidableEq, Repr

def LookupError.message : LookupError → String
  | .noAnswer => "failed to lookup address information: Temporary failure in name resolution"
  | .unknownName => "failed to lookup address information: Name or service not known"
  | .zeroByte => "file name contained an unexpected NUL byte"
  | .other report => report

/-- Failure of a link itself, as opposed to a server that refuses something. -/
inductive TransportError where
  /-- The host was looked up, and has no address -/
  | unresolved (host : String)
  /-- The host has no name that a certificate could carry -/
  | invalidServerName (host : String)
  /-- Securing links is not set up, for this reason -/
  | unsecured (reason : String)
  | resolve (cause : LookupError)
  | connect (cause : SystemError)
  /-- The time limit of a link is not set -/
  | configure (cause : SystemError)
  | read (cause : SystemError)
  | write (cause : SystemError)
  deriving DecidableEq, Repr

def TransportError.message : TransportError → String
  | .unresolved host => "no address found for host `" ++ host ++ "`"
  | .invalidServerName host => "`" ++ host ++ "` is not a valid TLS server name"
  | .unsecured reason => "TLS setup failed: " ++ reason
  | .resolve cause => "resolve failed: " ++ cause.message
  | .connect cause => "connect failed: " ++ cause.message
  | .configure cause => "configure failed: " ++ cause.message
  | .read cause => "read failed: " ++ cause.message
  | .write cause => "write failed: " ++ cause.message

/-! ## Section 2: Links -/

/-- What a server does when its plan is used up. -/
inductive Ending where
  /-- Its stream ends; commands are still heard -/
  | close
  /-- It stays silent -/
  | stall
  /-- The next command breaks the link -/
  | reset
  deriving DecidableEq, Repr

/-- An open line to a server. -/
structure Link where
  /-- Sent by the server and not read yet -/
  unread : Bytes
  /-- Replies the server has yet to send, one for each command line -/
  replies : List Bytes
  ending : Ending
  /-- Command lines the server has heard -/
  heard : List Bytes := []
  broken : Bool := false
  deriving DecidableEq, Repr

namespace Link

/-- The server's stream ends after what is unread. -/
def hasEnded (link : Link) : Bool :=
  link.ending = .close && link.replies.isEmpty

/-- The server hears a command line and answers by its plan. A broken link carries nothing. -/
def hear (link : Link) (line : Bytes) : Link :=
  if link.broken then link
  else
    match link.replies with
    | reply :: rest =>
      { link with heard := link.heard ++ [line], unread := link.unread ++ reply, replies := rest }
    -- The line that breaks the link is the last one heard
    | [] => { link with heard := link.heard ++ [line], broken := link.ending = .reset }

/-- The bytes that a command travels as. -/
def commandBytes (command : String) : Bytes :=
  Text.Utf8.write command ++ [carriageReturn, lineFeed]

/-- Send a command. Line feeds inside it make several lines of it. -/
def send (link : Link) (command : String) : Link × Except TransportError Unit :=
  if link.broken then (link, .error (.write .brokenPipe))
  else ((completeLines (commandBytes command)).foldl hear link, .ok ())

/-! ## Section 3: Reading -/

/-- Read the server's next line; none once its stream has ended. Bytes of a line that never comes
to its end are lost with the error that cuts it off. -/
def readLine (link : Link) : Link × Except TransportError (Option String) :=
  match cutLine? link.unread with
  | some (line, after) =>
    ({ link with unread := after }, .ok (some (Text.Utf8.read (stripReturn line))))
  | none =>
    -- No whole line has come, and what more comes depends on the server
    if link.broken then ({ link with unread := [] }, .error (.read .connectionReset))
    else if link.hasEnded then
      if link.unread.isEmpty then (link, .ok none)
      else ({ link with unread := [] }, .ok (some (Text.Utf8.read (stripReturn link.unread))))
    else ({ link with unread := [] }, .error (.read .temporarilyUnavailable))

/-- Every line read leaves fewer bytes unread. -/
theorem unread_lt_of_readLine {link link' : Link} {line : String}
    (h : link.readLine = (link', .ok (some line))) : link'.unread.length < link.unread.length := by
  rw [readLine] at h
  split at h
  · next hcut =>
    obtain ⟨rfl, -⟩ := Prod.mk.inj h
    exact length_lt_of_cutLine? hcut
  · split at h
    · cases h
    · split at h
      · split at h
        · cases h
        · next hne =>
          obtain ⟨rfl, -⟩ := Prod.mk.inj h
          cases hu : link.unread with
          | nil => simp [hu] at hne
          | cons => simp
      · cases h

/-- What ended the reading of a reply. -/
inductive Stop where
  /-- A line that ends the reply -/
  | line (last : String)
  | endOfInput
  | failed (error : TransportError)
  deriving DecidableEq, Repr

/-- Read lines up to one that ends the reply: the link afterwards, the lines before the end, and
what the end was. -/
def readUntil (isLast : String → Bool) (link : Link) : Link × List String × Stop :=
  match _h : link.readLine with
  | (link', .error error) => (link', [], .failed error)
  | (link', .ok none) => (link', [], .endOfInput)
  | (link', .ok (some line)) =>
    if isLast line then (link', [], .line line)
    else
      let rest := readUntil isLast link'
      (rest.1, line :: rest.2.1, rest.2.2)
  termination_by link.unread.length
  decreasing_by exact unread_lt_of_readLine _h

end Link

end JobScript.Pop
