import JobScript.Mail.Message
import JobScript.Pop.Link
import JobScript.Text.Decimal
import JobScript.Text.Search

/-!
# Exchanges with a Mail Server

Every command is one exchange: it is sent, and its reply is read and judged. A server that refuses
gives a failure value and a reason; only a link that fails gives an error.

## Architecture

- `Answer`: the value of an exchange and, for a failure value, the reason
- `commandStatus`, `listingStatus`: the judgement of a status line
- one function per command: `authenticate`, `delete`, `list`, `noop`, `retrieve`, `stat`, `top`
-/

namespace JobScript.Pop

/-! ## Section 1: Answers and reasons -/

/-- What an exchange gives back. -/
structure Answer (α : Type) where
  value : α
  /-- Why the value is a failure, if it is one -/
  reason : Option String := none
  deriving DecidableEq, Repr

/-- An exchange over a link: the link afterwards, and the answer unless the link failed. -/
abbrev Exchange (α : Type) := Link → Link × Except TransportError (Answer α)

/-- The stream ended before the reply was complete. -/
def endOfInput (verb : String) : String :=
  s!"Unexpected end of input stream from server while reading {verb} response"

def emptyResponse (verb : String) : String :=
  s!"Unexpected empty response to {verb} command"

def errorResponse (verb line : String) : String :=
  s!"Error response to {verb} command:  {line}"

def startsWith (line : String) (c : Char) : Bool :=
  line.toList.head? == some c

/-- Judge the greeting of a server: the reason why it is none, if so. -/
def greetingFault? : Option String → Option String
  | none => some "Unexpected end of input stream from server while reading greeting line"
  | some line =>
    if line.isEmpty then some "Unexpected empty response to greeting line"
    else if startsWith line '+' then none
    else some ("Error response on greeting line:  " ++ line)

/-- Judge a status line: the line, or the reason why it is not positive. -/
def commandStatus (verb : String) : Option String → Except String String
  | none => .error (endOfInput verb)
  | some line =>
    if line.isEmpty then .error (emptyResponse verb)
    else if startsWith line '+' then .ok line
    else .error (errorResponse verb line)

/-- Judge the status line before a listing. A refusal is its own reason, word for word. -/
def listingStatus (verb : String) : Option String → Except String Unit
  | none => .error (endOfInput verb)
  | some line =>
    if line.isEmpty then .error (emptyResponse verb)
    else if startsWith line '+' then .ok ()
    else .error line

/-! ## Section 2: Single replies -/

/-- Send a command and read one line. -/
def ask (command : String) (link : Link) : Link × Except TransportError (Option String) :=
  match link.send command with
  | (link, .error error) => (link, .error error)
  | (link, .ok ()) => link.readLine

/-- Send a command and judge its status line. -/
def askStatus (command verb : String) (link : Link) :
    Link × Except TransportError (Except String String) :=
  match ask command link with
  | (link, .error error) => (link, .error error)
  | (link, .ok line) => (link, .ok (commandStatus verb line))

/-- Name the user, then give the password; the password goes out only if the user is accepted. -/
def authenticate (user password : String) : Exchange Bool := fun link =>
  match askStatus ("user " ++ user) "USER" link with
  | (link, .error error) => (link, .error error)
  | (link, .ok (.error reason)) => (link, .ok ⟨false, some reason⟩)
  | (link, .ok (.ok _)) =>
    match askStatus ("pass " ++ password) "PASS" link with
    | (link, .error error) => (link, .error error)
    | (link, .ok (.error reason)) => (link, .ok ⟨false, some reason⟩)
    | (link, .ok (.ok _)) => (link, .ok ⟨true, none⟩)

def delete (message : Int32) : Exchange Bool := fun link =>
  match askStatus ("dele " ++ Text.Decimal.ofInt32 message) "DELE" link with
  | (link, .error error) => (link, .error error)
  | (link, .ok (.error reason)) => (link, .ok ⟨false, some reason⟩)
  | (link, .ok (.ok _)) => (link, .ok ⟨true, none⟩)

/-- Keep the session alive; the reply is read and does not matter. -/
def noop : Exchange Unit := fun link =>
  match ask "noop" link with
  | (link, .error error) => (link, .error error)
  | (link, .ok _) => (link, .ok ⟨(), none⟩)

/-- The count in a reply `+OK count size`. -/
def messageCount? (reply : String) : Option Int32 :=
  match Text.segments [' '] reply.toList with
  | _ :: count :: _ :: _ => Text.Decimal.int32? (String.ofList count)
  | _ => none

/-- Ask for the number of messages; `-1` stands for a failure. -/
def stat : Exchange Int32 := fun link =>
  match askStatus "stat" "STAT" link with
  | (link, .error error) => (link, .error error)
  | (link, .ok (.error reason)) => (link, .ok ⟨-1, some reason⟩)
  | (link, .ok (.ok reply)) =>
    match messageCount? reply with
    | some count => (link, .ok ⟨count, none⟩)
    | none => (link, .ok ⟨-1, some ("Malformed STAT response:  " ++ reply)⟩)

/-! ## Section 3: Listings -/

/-- A line that ends the reply to `list`. -/
def endsListing (line : String) : Bool :=
  line.isEmpty || startsWith line '-' || startsWith line '.'

/-- Why a listing that ended with this line is a failure, if it is one. -/
def listingFault? (last : String) : Option String :=
  if last.isEmpty then some (emptyResponse "LIST")
  else if startsWith last '-' then some (errorResponse "LIST" last)
  else none

/-- Ask for the list of messages: its lines without status lines. -/
def list : Exchange (List String) := fun link =>
  match link.send "list" with
  | (link, .error error) => (link, .error error)
  | (link, .ok ()) =>
    match link.readUntil endsListing with
    | (link, _, .failed error) => (link, .error error)
    | (link, lines, .endOfInput) =>
      (link, .ok ⟨lines.filter (!startsWith · '+'), some (endOfInput "LIST")⟩)
    | (link, lines, .line last) =>
      (link, .ok ⟨lines.filter (!startsWith · '+'), listingFault? last⟩)

/-- Ask for a listing that follows a status line: the lines up to one that ends it. A refusal has
no lines. -/
def askListing (command verb : String) (isLast : String → Bool) (link : Link) :
    Link × Except TransportError (Except String (List String × Link.Stop)) :=
  match ask command link with
  | (link, .error error) => (link, .error error)
  | (link, .ok line) =>
    match listingStatus verb line with
    | .error reason => (link, .ok (.error reason))
    | .ok () =>
      match link.readUntil isLast with
      | (link, _, .failed error) => (link, .error error)
      | (link, lines, stop) => (link, .ok (.ok (lines, stop)))

/-- The lines before the first empty one. -/
def headerPart (lines : List String) : List String :=
  lines.takeWhile (!·.isEmpty)

/-- The lines after the first empty one. -/
def bodyPart (lines : List String) : List String :=
  (lines.dropWhile (!·.isEmpty)).drop 1

/-- The message whose lines are these: headers, an empty line, the body. -/
def messageOfLines (lines : List String) : MailMessage :=
  ((headerPart lines).foldl MailMessage.addHeaderLine {}).addBodyLines (bodyPart lines)

def retrieve (message : Int32) : Exchange MailMessage := fun link =>
  match askListing ("retr " ++ Text.Decimal.ofInt32 message) "RETR" (· == ".") link with
  | (link, .error error) => (link, .error error)
  | (link, .ok (.error reason)) => (link, .ok ⟨{}, some reason⟩)
  | (link, .ok (.ok (lines, .line _))) => (link, .ok ⟨messageOfLines lines, none⟩)
  | (link, .ok (.ok (lines, _))) => (link, .ok ⟨messageOfLines lines, some (endOfInput "RETR")⟩)

/-- Fetch the beginning of a message's body. -/
def top (message lines : Int32) : Exchange (List String) := fun link =>
  let command := "top " ++ Text.Decimal.ofInt32 message ++ " " ++ Text.Decimal.ofInt32 lines
  match askListing command "TOP" (startsWith · '.') link with
  | (link, .error error) => (link, .error error)
  | (link, .ok (.error reason)) => (link, .ok ⟨[], some reason⟩)
  | (link, .ok (.ok (lines, _))) =>
    (link, .ok ⟨(bodyPart lines).filter (!startsWith · '+'), none⟩)

end JobScript.Pop
