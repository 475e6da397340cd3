/-!
# ASCII Case

Keywords, operation names, header names and error codes are compared without regard to the case
of their ASCII letters. Characters outside ASCII always stand for themselves here; the case of
general text is the business of `JobScript.Text.Casing`.
-/

namespace JobScript.Text

/-- The text with its ASCII capitals made small. -/
def asciiLower (s : String) : String :=
  String.ofList (s.toList.map Char.toLower)

/-- Both texts are the same up to the case of ASCII letters. -/
def equalIgnoringAsciiCase (a b : String) : Bool :=
  a.toList.map Char.toLower == b.toList.map Char.toLower

theorem toList_asciiLower (s : String) : (asciiLower s).toList = s.toList.map Char.toLower :=
  String.toList_ofList

/-- Two texts agree up to ASCII case exactly when their folded forms are equal. -/
theorem equalIgnoringAsciiCase_iff {a b : String} :
    equalIgnoringAsciiCase a b = true ↔ asciiLower a = asciiLower b := by
  rw [equalIgnoringAsciiCase, beq_iff_eq, ← toList_asciiLower, ← toList_asciiLower]
  exact String.toList_inj

def isAsciiLetter (c : Char) : Bool :=
  c.isUpper || c.isLower

/-- `true` or `false` in any ASCII case; every other text says neither. -/
def truthValue? (s : String) : Option Bool :=
  if equalIgnoringAsciiCase s "true" then some true
  else if equalIgnoringAsciiCase s "false" then some false
  else none

end JobScript.Text
