import JobScript.Pop.Host

/-!
# Names of Secured Servers

A secured server is known by a host name or an address. A host name is a sequence of labels
between dots, of which the last one is not a number; an address is written out in full.
-/

namespace JobScript.Pop.ServerName

/-- A label of a server: no hyphen at either end. -/
def isServerLabel (label : List Char) : Bool :=
  Host.isLabel label && label.head? != some '-' && label.getLast? != some '-'

/-- A host name, with or without a closing dot. -/
def isHostName (host : String) : Bool :=
  let parts := Host.labels host.toList
  host.utf8ByteSize ≤ Host.greatestNameLength && !parts.isEmpty && parts.all isServerLabel &&
    !(parts.getLastD []).all Char.isDigit

/-- An address of four bytes or of eight groups. -/
def isAddress (host : String) : Bool :=
  (Host.octets? host.toList).isSome || (Host.longAddress? host.toList).isSome

/-- The host can be the name of a secured server. -/
def isValid (host : String) : Bool :=
  isHostName host || isAddress host

example : isValid "mail.example.com" = true := by decide
example : isValid "127.0.0.1" = true := by decide
example : isValid "127.1" = false := by decide

end JobScript.Pop.ServerName
