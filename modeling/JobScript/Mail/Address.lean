/-!
# Mail Addresses

A loose test for addresses: one `@`, no blank or tab, a dot in the part after the `@`, and nowhere
two dots in a row.
-/

namespace JobScript.Mail

/-- Two dots in a row occur in the text. -/
def hasDoubleDot : List Char → Bool
  | '.' :: '.' :: _ => true
  | _ :: rest => hasDoubleDot rest
  | [] => false

/-- The characters form an address. -/
def isAddress (s : List Char) : Bool :=
  let name := s.takeWhile (· != '@')
  match s.dropWhile (· != '@') with
  | [] => false
  | _ :: domain =>
    !domain.contains '@' && !s.contains ' ' && !s.contains '\t' && domain.contains '.' &&
      !hasDoubleDot domain && !hasDoubleDot name

def isEmailAddress (s : String) : Bool :=
  isAddress s.toList

/-- Pieces of a text between commas and blanks, in order, empty ones included. -/
def pieces : List Char → List (List Char)
  | [] => [[]]
  | c :: rest =>
    if c = ',' ∨ c = ' ' then [] :: pieces rest
    else
      match pieces rest with
      | [] => [[c]]
      | piece :: others => (c :: piece) :: others

/-- The addresses in a list that is separated by commas and blanks; all else is passed over. -/
def addresses (s : String) : List String :=
  ((pieces s.toList).filter isAddress).map String.ofList

example : isEmailAddress "user@example.com" = true := by decide
example : isEmailAddress "user@localhost" = false := by decide
example : addresses "a@b.c, nobody, d@e.f" = ["a@b.c", "d@e.f"] := by decide

end JobScript.Mail
