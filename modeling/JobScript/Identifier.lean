import JobScript.Text.Ascii

/-!
# Variable Names

A variable name starts with an ASCII letter and goes on with ASCII letters, digits and
underscores. The words of the script grammar and the two truth values are no names, in any case.
-/

namespace JobScript.Identifier

/-- Words that scripts use for their own statements and for the truth values. -/
def reserved : List String :=
  ["use", "variable", "begin", "end", "if", "ifnot", "else", "loop", "while", "whilenot",
    "break", "continue", "true", "false"]

/-- A character that may stand in a name after its first. -/
def isPart (c : Char) : Bool :=
  Text.isAsciiLetter c || c.isDigit || c == '_'

/-- The characters have the shape of a name. -/
def isShaped : List Char → Bool
  | [] => false
  | first :: rest => Text.isAsciiLetter first && rest.all isPart

def isValid (name : String) : Bool :=
  isShaped name.toList && !reserved.contains (Text.asciiLower name)

example : isValid "Pop2_conn" = true := by decide
example : isValid "2fast" = false := by decide
example : isValid "WhileNot" = false := by decide

end JobScript.Identifier
