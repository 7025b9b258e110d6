/-!
# Blanks, comments and line ends

A document consists of lines.  A line ends with a newline, alone or behind a carriage return; a
carriage return elsewhere is an error.  Blanks are spaces and tabs.  A comment goes from a number
sign to the end of the line and may hold any character that is no control character.
-/

namespace CodeSurvey
namespace Toml

/-- Whether the character is a blank inside a line. -/
def isBlank (c : Char) : Bool := c == ' ' || c == '\t'

/-- Whether the character may stand in a comment or in a text: it is a tab or no control
character. -/
def isPrintable (c : Char) : Bool :=
  c == '\t' || (decide (0x20 ≤ c.toNat) && decide (c.toNat ≠ 0x7f))

/-- The characters behind the blanks. -/
def dropBlanks (cs : List Char) : List Char := cs.dropWhile isBlank

/-- The characters behind a comment, the beginning of which has been read.  They begin with the end
of the line. -/
def dropComment (cs : List Char) : List Char := cs.dropWhile isPrintable

/-- The characters behind the end of a line. -/
def lineEnd? : List Char → Option (List Char)
  | [] => some []
  | '\n' :: cs => some cs
  | '\r' :: '\n' :: cs => some cs
  | _ => none

/-- The characters behind the rest of a line that has nothing more to say. -/
def restOfLine? (cs : List Char) : Option (List Char) :=
  match dropBlanks cs with
  | '#' :: cs => lineEnd? (dropComment cs)
  | cs => lineEnd? cs

/-- The characters behind blanks, line ends and comments.  Inside of a comment only the end of the
line matters. -/
def dropSpace? : (inComment : Bool) → List Char → Option (List Char)
  | _, [] => some []
  | _, '\n' :: cs => dropSpace? false cs
  | _, '\r' :: '\n' :: cs => dropSpace? false cs
  | true, c :: cs => if isPrintable c then dropSpace? true cs else none
  | false, c :: cs =>
      if isBlank c then dropSpace? false cs
      else if c == '#' then dropSpace? true cs
      else some (c :: cs)

/-- What follows an expected character. -/
def expect? (expected : Char) : List Char → Option (List Char)
  | [] => none
  | c :: cs => if c = expected then some cs else none

end Toml
end CodeSurvey
