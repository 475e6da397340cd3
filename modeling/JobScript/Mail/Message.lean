import JobScript.Mail.Address
import JobScript.Text.Ascii

/-!
# Mail Messages

A message is a list of header lines and a list of body lines. Adding a `Subject`, `From`, `To` or
`Cc` header line also fills in the matching field; setting a field replaces its header line, or
appends one.

## Architecture

- `headerValue?`: the text after `name: `
- `addHeaderLine`: a line, and the field it fills
- `appendToHeader`, `replaceHeader`: a field written back to its line
-/

namespace JobScript

structure MailMessage where
  headerLines : List String := []
  bodyLines : List String := []
  «to» : List String := []
  cc : List String := []
  sender : Option String := none
  subject : Option String := none
  deriving DecidableEq, Repr

namespace MailMessage

/-! ## Section 1: Header lines -/

/-- Cut a text after its first `size` bytes; none when it is shorter or the cut would fall inside
a character. -/
def cutBytes? : (size : Nat) → List Char → Option (List Char × List Char)
  | 0, s => some ([], s)
  | _ + 1, [] => none
  | size + 1, c :: rest =>
    if c.utf8Size ≤ size + 1 then
      (cutBytes? (size + 1 - c.utf8Size) rest).map fun (head, tail) => (c :: head, tail)
    else none

/-- The text after `name: ` when the line is a header of that name, in any ASCII case. -/
def headerValue? (name line : String) : Option String :=
  match cutBytes? name.utf8ByteSize line.toList with
  | some (head, ':' :: ' ' :: value) =>
    if Text.equalIgnoringAsciiCase (String.ofList head) name then some (String.ofList value)
    else none
  | _ => none

/-- Append a header line and fill in the field that it names. -/
def addHeaderLine (m : MailMessage) (line : String) : MailMessage :=
  let m := { m with headerLines := m.headerLines ++ [line] }
  -- A line has one name, so at most one of the four answers
  match headerValue? "subject" line, headerValue? "from" line, headerValue? "to" line,
    headerValue? "cc" line with
  | some subject, _, _, _ => { m with subject := some subject }
  | none, some sender, _, _ => { m with sender := some sender }
  | none, none, some recipients, _ => { m with «to» := m.to ++ Mail.addresses recipients }
  | none, none, none, some recipients => { m with cc := m.cc ++ Mail.addresses recipients }
  | none, none, none, none => m

/-- The value of the first header line of this name. -/
def header? (m : MailMessage) (name : String) : Option String :=
  m.headerLines.findSome? (headerValue? name)

/-- Change the first header line of a name, or append a line when there is none. -/
def updateHeader (name : String) (change : String → String) (absent : String) :
    List String → List String
  | [] => [absent]
  | line :: rest =>
    if (headerValue? name line).isSome then change line :: rest
    else line :: updateHeader name change absent rest

/-- Add an address at the end of the header line of this name. -/
def appendToHeader (m : MailMessage) (name address : String) : MailMessage :=
  { m with
    headerLines :=
      updateHeader name (· ++ ", " ++ address) (name ++ ": " ++ address) m.headerLines }

/-- Write the header line of this name anew. -/
def replaceHeader (m : MailMessage) (name value : String) : MailMessage :=
  let line := name ++ ": " ++ value
  { m with headerLines := updateHeader name (fun _ => line) line m.headerLines }

/-! ## Section 2: Fields and body -/

def addBodyLine (m : MailMessage) (line : String) : MailMessage :=
  { m with bodyLines := m.bodyLines ++ [line] }

def addBodyLines (m : MailMessage) (lines : List String) : MailMessage :=
  { m with bodyLines := m.bodyLines ++ lines }

def addToRecipient (m : MailMessage) (address : String) : MailMessage :=
  { m with «to» := m.to ++ [address] }.appendToHeader "To" address

/-- Add a recipient of a copy. -/
def addCcRecipient (m : MailMessage) (address : String) : MailMessage :=
  { m with cc := m.cc ++ [address] }.appendToHeader "CC" address

def setSender (m : MailMessage) (sender : String) : MailMessage :=
  { m with sender := some sender }.replaceHeader "From" sender

def setSubject (m : MailMessage) (subject : String) : MailMessage :=
  { m with subject := some subject }.replaceHeader "Subject" subject

/-- Drop the header lines and the fields read from them. -/
def clearHeader (m : MailMessage) : MailMessage :=
  { bodyLines := m.bodyLines }

def clearBody (m : MailMessage) : MailMessage :=
  { m with bodyLines := [] }

def clear (m : MailMessage) : MailMessage :=
  m.clearHeader.clearBody

/-! ## Section 3: Display -/

def render (m : MailMessage) : String :=
  if m.headerLines.isEmpty && m.bodyLines.isEmpty then "null"
  else
    match m.subject, m.sender with
    | some subject, _ => "mail message \"" ++ subject ++ "\""
    | none, some sender => "mail message from " ++ sender
    | none, none => "mail message"

end MailMessage

end JobScript
