import JobScript.Text.Ascii
import JobScript.Text.Search

/-!
# Hosts

Which machine a host means. A host is written as an address or as a name. The only names known are
those of this machine: there is no name service to look up others, and no way out to other
machines.

## Architecture

- `number?`, `shortAddress?`: addresses of one to four numbers between dots
- `group?`, `longAddress?`: addresses of eight groups between colons
- `isName`: what a name service could be asked about
- `place`: where a host leads
-/

namespace JobScript.Pop.Host

/-! ## Section 1: Numbers -/

/-- The value of a digit in a base up to sixteen. -/
def digit? (base : Nat) (c : Char) : Option Nat :=
  let value :=
    if c.isDigit then c.toNat - '0'.toNat
    else if 'a' ≤ c.toLower && c.toLower ≤ 'f' then c.toLower.toNat - 'a'.toNat + 10
    else base
  if value < base then some value else none

/-- The number that a run of digits denotes; no digits denote none. -/
def ofDigits? (base : Nat) (digits : List Char) : Option Nat :=
  if digits.isEmpty then none
  else digits.foldlM (fun number c => (digit? base c).map (base * number + ·)) 0

/-- A number of a short address: hexadecimal after `0x`, octal after `0`, else decimal. -/
def number? : List Char → Option Nat
  | '0' :: 'x' :: digits | '0' :: 'X' :: digits => ofDigits? 16 digits
  | '0' :: digits => ofDigits? 8 ('0' :: digits)
  | digits => ofDigits? 10 digits

/-! ## Section 2: Short addresses -/

/-- The address, below `2 ^ 32`, that one to four numbers between dots denote. All but the last
are bytes, and the last stands for all the bytes that are left. -/
def shortAddress? (host : List Char) : Option Nat := do
  let numbers ← (Text.segments ['.'] host).mapM number?
  let first := numbers.dropLast
  let last ← numbers.getLast?
  let room := 1 <<< (8 * (4 - first.length))
  if first.length < 4 && first.all (· < 256) && last < room then
    some (first.foldl (256 * · + ·) 0 * room + last)
  else none

/-- A byte of an address in decimal, without leading zeros. -/
def octet? (digits : List Char) : Option Nat :=
  if digits.length = 1 || digits.head? != some '0' then (ofDigits? 10 digits).filter (· < 256)
  else none

/-- The four bytes of an address written out in full. -/
def octets? (host : List Char) : Option (List Nat) :=
  ((Text.segments ['.'] host).mapM octet?).filter (·.length = 4)

/-- `127.0.0.1`, and the address of all zeros that stands for it. -/
def ownAddresses : List Nat := [0x7F000001, 0]

/-! ## Section 3: Long addresses -/

/-- A group of a long address: up to four hexadecimal digits. -/
def group? (digits : List Char) : Option Nat :=
  if digits.length ≤ 4 then ofDigits? 16 digits else none

/-- The groups written between colons. At the end of an address, four bytes may stand for the last
two groups. -/
def groups? (atEnd : Bool) (text : List Char) : Option (List Nat) :=
  if text.isEmpty then some []
  else
    let pieces := Text.segments [':'] text
    match pieces.mapM group? with
    | some groups => some groups
    | none =>
      match atEnd, pieces.dropLast.mapM group?, (pieces.getLast?).bind octets? with
      | true, some groups, some [a, b, c, d] => some (groups ++ [256 * a + b, 256 * c + d])
      | _, _, _ => none

/-- The eight groups of a long address. A double colon stands for groups of zeros, at least one. -/
def longAddress? (host : List Char) : Option (List Nat) :=
  match Text.first? [':', ':'] host with
  | none => (groups? true host).filter (·.length = 8)
  | some i => do
    let before ← groups? false (host.take i)
    let after ← groups? true (host.drop (i + 2))
    let left := 8 - (before.length + after.length)
    if 0 < left then some (before ++ List.replicate left 0 ++ after) else none

/-! ## Section 4: Names -/

/-- The names of this machine. -/
def ownNames : List String := ["localhost"]

/-- A character that may stand in a label. -/
def isLabelChar (c : Char) : Bool :=
  Text.isAsciiLetter c || c.isDigit || c == '_' || c == '-'

/-- A label: up to 63 characters. -/
def isLabel (label : List Char) : Bool :=
  !label.isEmpty && label.length ≤ 63 && label.all isLabelChar

/-- The labels between the dots of a name; a closing dot is not followed by a label. -/
def labels (host : List Char) : List (List Char) :=
  let parts := Text.segments ['.'] host
  if parts.getLast? = some [] then parts.dropLast else parts

/-- The number of characters of a name without its closing dot. -/
def nameLength (host : List Char) : Nat :=
  if host.getLast? = some '.' then host.length - 1 else host.length

/-- The longest name, without a closing dot. -/
def greatestNameLength : Nat := 253

/-- A name service could be asked about the host: it consists of labels, and does not begin with a
hyphen. A single dot is the name above all others. -/
def isName (host : List Char) : Bool :=
  host = ['.'] ||
    (!(labels host).isEmpty && (labels host).all isLabel && host.head? != some '-' &&
      nameLength host ≤ greatestNameLength)

/-! ## Section 5: Places -/

/-- Where a host leads. -/
inductive Place where
  | here
  /-- A machine that could only be reached by a network -/
  | elsewhere
  /-- A machine with a long address; this machine has none to call it from -/
  | unanswerable
  /-- An address on a link that is not said -/
  | onSomeLink
  /-- A name that would have to be looked up -/
  | unknownName
  /-- Neither an address nor a name -/
  | nowhere
  /-- A text with a zero byte, which cannot even be asked for -/
  | zeroByte
  deriving DecidableEq, Repr

/-- Where a short address leads. -/
def placeOfShort (address : Nat) : Place :=
  if ownAddresses.contains address then .here else .elsewhere

/-- Where a long address leads. A short address may be written as a long one, and addresses to
groups of machines are left to the network. -/
def placeOfLong : List Nat → Place
  | [0, 0, 0, 0, 0, 0xFFFF, _, _] => .elsewhere
  | group :: _ =>
    if group / 0x100 = 0xFF then .elsewhere
    else if group / 0x40 = 0xFE80 / 0x40 then .onSomeLink
    else .unanswerable
  | [] => .nowhere

/-- Where a host leads. An asterisk means this machine. -/
def place (host : String) : Place :=
  let text := host.toList
  match shortAddress? text with
  | some address => placeOfShort address
  | none =>
    match longAddress? text with
    | some groups => placeOfLong groups
    | none =>
      if text.contains '\x00' then .zeroByte
      else if host = "*" || ownNames.any (Text.equalIgnoringAsciiCase host) then .here
      else if isName text then .unknownName
      else .nowhere

example : place "127.1" = .here := by decide +kernel
example : place "LocalHost" = .here := by decide +kernel
example : place "0x7F.0.0.2" = .elsewhere := by decide +kernel
example : place "1.2.3.256" = .unknownName := by decide +kernel
example : place "::1" = .unanswerable := by decide +kernel
example : place "::1.2.3.256" = .nowhere := by decide +kernel
example : place "mail.example." = .unknownName := by decide +kernel
example : place "a..b" = .nowhere := by decide +kernel

end JobScript.Pop.Host
