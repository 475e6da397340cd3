import JobScript.Text.CaseTables

/-!
# Case of General Text

Small and capital forms of whole texts. A character may become several, and a capital sigma
becomes the small sigma of word ends when a letter stands before it and none after it; characters
such as apostrophes and accents are passed over in both directions.

## Architecture

- `CaseRun.image?`, `caseImage`: one character by the tables
- `endsWord`: the context rule of sigma
- `lowerChars`, `upperChars`: a sequence of characters
- `toLower`, `toUpper`: a text
-/

namespace JobScript.Text

/-! ## Section 1: One character -/

/-- The code point that a run moves `code` to, if the run contains it. -/
def CaseRun.image? (run : CaseRun) (code : Nat) : Option Nat :=
  if run.first ≤ code && code ≤ run.last && (code - run.first) % run.step == 0 then
    some ((code : Int) + run.offset).toNat
  else none

/-- What a character becomes under a pair of case tables; most characters stay. -/
def caseImage (runs : List CaseRun) (specials : List (Nat × List Nat)) (c : Char) : List Char :=
  match runs.findSome? (·.image? c.toNat) with
  | some code => [Char.ofNat code]
  | none =>
    match specials.lookup c.toNat with
    | some codes => codes.map Char.ofNat
    | none => [c]

/-- The small form of a character, out of context. -/
def lowerChar (c : Char) : List Char :=
  if c.toNat < 0x80 then [c.toLower] else caseImage lowerRuns lowerSpecials c

def upperChar (c : Char) : List Char :=
  if c.toNat < 0x80 then [c.toUpper] else caseImage upperRuns upperSpecials c

/-! ## Section 2: Sigma in context -/

/-- The character lies in one of the runs. -/
def isWithin (ranges : List (Nat × Nat)) (c : Char) : Bool :=
  ranges.any fun (first, last) => first ≤ c.toNat && c.toNat ≤ last

/-- The nearest character that is not passed over is a letter with case. -/
def meetsCased (s : List Char) : Bool :=
  match s.dropWhile (isWithin caseIgnorableRanges) with
  | [] => false
  | c :: _ => isWithin casedRanges c

/-- A sigma ends a word when a letter stands before it and none after it. The characters before it
are given nearest first. -/
def endsWord (before after : List Char) : Bool :=
  meetsCased before && !meetsCased after

/-- Capital sigma, the one letter whose small form depends on its neighbours. -/
def capitalSigma : Char := 'Σ'

/-! ## Section 3: Texts -/

/-- Small forms of the characters of a text, given the characters before them, nearest first. -/
def lowerAfter (before : List Char) : List Char → List Char
  | [] => []
  | c :: rest =>
    -- Context is read off the text as it was, not off its small letters
    (if c = capitalSigma then [if endsWord before rest then 'ς' else 'σ'] else lowerChar c) ++
      lowerAfter (c :: before) rest

/-- The characters of a text in their small forms. -/
def lowerChars (s : List Char) : List Char :=
  lowerAfter [] s

def upperChars (s : List Char) : List Char :=
  s.flatMap upperChar

def toLower (s : String) : String :=
  String.ofList (lowerChars s.toList)

def toUpper (s : String) : String :=
  String.ofList (upperChars s.toList)

example : toLower "ΌΔΟΣ Σ" = "όδος σ" := by decide +kernel
-- The first of these two letters has no case, so the sigma before it ends the word
example : toLower "ΑΣʕ" = "αςʕ" := by decide +kernel
example : toLower "ΑΣɐ" = "ασɐ" := by decide +kernel
example : toLower "İ" = "i̇" := by decide +kernel
example : toUpper "straße" = "STRASSE" := by decide +kernel

end JobScript.Text
