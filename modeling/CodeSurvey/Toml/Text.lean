import CodeSurvey.Text.Hexadecimal
import CodeSurvey.Toml.Blank

/-!
# Texts in documents

A text stands in quotation marks, where backslashes escape characters, or in apostrophes, where
every character stands for itself.  Either mark may be written three times; the text may then have
several lines, and a line end right behind the opening marks does not belong to it.

## Main definitions

* `Text.Style`: the four ways to write a text.
* `Text.read?`: the text behind opening marks, and what follows the closing ones.
-/

namespace CodeSurvey
namespace Toml
namespace Text

/-- How a text is written. -/
structure Style where
  mark : Char
  escapes : Bool
  lines : Bool

/-- In quotation marks, on one line. -/
def Style.quoted : Style := ⟨'"', true, false⟩

/-- In apostrophes, on one line. -/
def Style.verbatim : Style := ⟨'\'', false, false⟩

/-- The same style with marks written three times. -/
def Style.long (style : Style) : Style := { style with lines := true }

/-! ## Escapes -/

/-- The character that a letter behind a backslash stands for. -/
def shortEscape? : Char → Option Char
  | 'b' => some '\x08'
  | 't' => some '\t'
  | 'n' => some '\n'
  | 'f' => some '\x0c'
  | 'r' => some '\r'
  | 'e' => some '\x1b'
  | '"' => some '"'
  | '\\' => some '\\'
  | _ => none

/-- How many hexadecimal digits follow a letter behind a backslash. -/
def escapeDigits? : Char → Option Nat
  | 'x' => some 2
  | 'u' => some 4
  | 'U' => some 8
  | _ => none

/-- The character with a code, if there is one. -/
def ofCode? (code : Nat) : Option Char :=
  if code.isValidChar then some (Char.ofNat code) else none

/-- The escaped character behind a backslash, and what follows it. -/
def escape? : List Char → Option (Char × List Char)
  | [] => none
  | c :: cs =>
      match escapeDigits? c with
      | some count =>
          if (cs.take count).length = count then
            ((Hexadecimal.number? (cs.take count)).bind ofCode?).map fun x => (x, cs.drop count)
          else none
      | none => (shortEscape? c).map fun x => (x, cs)

/-- The characters behind blanks and line ends. -/
def dropLines : List Char → List Char
  | [] => []
  | '\r' :: '\n' :: cs => dropLines cs
  | c :: cs => if isBlank c || c == '\n' then dropLines cs else c :: cs

/-- What follows a backslash at the end of a line: all space up to the next character is left
out. -/
def continueLine? (cs : List Char) : Option (List Char) :=
  match dropBlanks cs with
  | '\n' :: cs => some (dropLines cs)
  | '\r' :: '\n' :: cs => some (dropLines cs)
  | _ => none

/-! ## Reading -/

/-- How many of the first characters are the mark, of at most five. -/
def marks (mark : Char) (cs : List Char) : Nat := ((cs.take 5).takeWhile (· == mark)).length

/-- The rest of a text behind the characters read so far, in reverse, and what follows its closing
marks.  Of up to five marks at the end of a long text the last three close it. -/
def readFrom? (style : Style) :
    (fuel : Nat) → (found : List Char) → List Char → Option (List Char × List Char)
  | 0, _, _ => none
  | _, _, [] => none
  | fuel + 1, found, c :: cs =>
      if c = style.mark then
        if style.lines then
          let count := marks style.mark (c :: cs)
          if 3 ≤ count then
            some ((List.replicate (count - 3) c ++ found).reverse, (c :: cs).drop count)
          else readFrom? style fuel (c :: found) cs
        else some (found.reverse, cs)
      else if c = '\\' ∧ style.escapes then
        match escape? cs with
        | some (x, rest) => readFrom? style fuel (x :: found) rest
        | none =>
            if style.lines then
              match continueLine? cs with
              | some rest => readFrom? style fuel found rest
              | none => none
            else none
      else if isPrintable c then readFrom? style fuel (c :: found) cs
      else if c = '\n' ∧ style.lines then readFrom? style fuel (c :: found) cs
      else if c = '\r' ∧ style.lines ∧ cs.head? = some '\n' then readFrom? style fuel (c :: found) cs
      else none

/-- The characters behind a line end that comes first. -/
def dropFirstLineEnd : List Char → List Char
  | '\n' :: cs => cs
  | '\r' :: '\n' :: cs => cs
  | cs => cs

/-- The text behind opening marks, and what follows the closing ones. -/
def readAs? (style : Style) (cs : List Char) : Option (String × List Char) :=
  let cs := if style.lines then dropFirstLineEnd cs else cs
  (readFrom? style (cs.length + 1) [] cs).map fun (text, rest) => (String.ofList text, rest)

/-- The text at the beginning of the characters, in any style, and what follows it. -/
def read? : List Char → Option (String × List Char)
  | '"' :: '"' :: '"' :: cs => readAs? Style.quoted.long cs
  | '"' :: cs => readAs? .quoted cs
  | '\'' :: '\'' :: '\'' :: cs => readAs? Style.verbatim.long cs
  | '\'' :: cs => readAs? .verbatim cs
  | _ => none

/-- Whether the characters begin with a text. -/
def begins : List Char → Bool
  | [] => false
  | c :: _ => c == '"' || c == '\''

end Text
end Toml
end CodeSurvey
