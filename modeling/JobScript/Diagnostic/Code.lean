import JobScript.Text.Ascii

/-!
# Error Codes

The first digit of a code names the phase its error belongs to: 1 for errors found while a call is
resolved, 6 for errors of a resolved call that runs, 9 for calls that no signature allows.
-/

namespace JobScript

/-- Code of a diagnostic or of a failed call. -/
inductive ErrorCode where
  /-- The type has no operation of this name -/
  | E1001
  /-- No overload of the operation takes these argument types -/
  | E1002
  /-- A declaration names an unknown type -/
  | E1003
  /-- A variable's name is no identifier -/
  | E1004
  /-- A variable is declared twice -/
  | E1005
  /-- A call names a variable that was never declared -/
  | E1006
  /-- Division or remainder by zero -/
  | E6001
  /-- A text offset or list position is out of range -/
  | E6002
  /-- Assignment between values of different types -/
  | E6003
  /-- The connection of an established session broke -/
  | E6004
  /-- An argument is outside the range that the operation accepts -/
  | E6005
  /-- The script ended itself with an error -/
  | E6006
  /-- The operation index stands for no behaviour -/
  | E9001
  /-- An argument does not have the type its signature declares -/
  | E9002
  deriving DecidableEq, Repr

/-- When the errors of a code are found. -/
inductive Phase where
  | resolution
  | execution
  | defect
  deriving DecidableEq, Repr

namespace ErrorCode

def all : List ErrorCode :=
  [.E1001, .E1002, .E1003, .E1004, .E1005, .E1006, .E6001, .E6002, .E6003, .E6004, .E6005, .E6006,
    .E9001, .E9002]

def text : ErrorCode → String
  | .E1001 => "E1001"
  | .E1002 => "E1002"
  | .E1003 => "E1003"
  | .E1004 => "E1004"
  | .E1005 => "E1005"
  | .E1006 => "E1006"
  | .E6001 => "E6001"
  | .E6002 => "E6002"
  | .E6003 => "E6003"
  | .E6004 => "E6004"
  | .E6005 => "E6005"
  | .E6006 => "E6006"
  | .E9001 => "E9001"
  | .E9002 => "E9002"

def phase : ErrorCode → Phase
  | .E1001 | .E1002 | .E1003 | .E1004 | .E1005 | .E1006 => .resolution
  | .E6001 | .E6002 | .E6003 | .E6004 | .E6005 | .E6006 => .execution
  | .E9001 | .E9002 => .defect

/-- The code a text writes, in any ASCII case. -/
def ofText? (s : String) : Option ErrorCode :=
  all.find? fun code => Text.equalIgnoringAsciiCase code.text s

end ErrorCode

end JobScript
