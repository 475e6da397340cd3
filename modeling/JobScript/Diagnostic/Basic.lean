import JobScript.Diagnostic.Code
import JobScript.Line

/-!
# Diagnostics

A diagnostic tells a script author what is wrong with a call before it runs: a code, a message,
the line when it is known, notes that give context and suggestions that help.
-/

namespace JobScript

/-- How serious a diagnostic is. -/
inductive Severity where
  | error
  | warning
  deriving DecidableEq, Repr

def Severity.text : Severity → String
  | .error => "error"
  | .warning => "warning"

/-- A report to the author of a script. -/
structure Diagnostic where
  code : ErrorCode
  severity : Severity := .error
  message : String := ""
  line : Option Line := none
  notes : List String := []
  suggestions : List String := []
  deriving DecidableEq, Repr

namespace Diagnostic

def isError (d : Diagnostic) : Bool :=
  d.severity = .error

/-- The lines of a diagnostic as it is printed: a headline, then where, notes and help. -/
def lines (d : Diagnostic) : List String :=
  (d.severity.text ++ " [" ++ d.code.text ++ "]: " ++ d.message) ::
    (d.line.toList.map fun line => "  --> line " ++ toString line.number) ++
    (d.notes.map fun note => "  = note: " ++ note) ++
    (d.suggestions.map fun suggestion => "  = help: " ++ suggestion)

def render (d : Diagnostic) : String :=
  "\n".intercalate d.lines

end Diagnostic

end JobScript
