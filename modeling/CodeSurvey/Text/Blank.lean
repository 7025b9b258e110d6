/-!
# Blanks, words and infixes

White space in the sense of the Unicode property White_Space, the text between the blanks at
both ends, the words between blanks, and the test whether one text occurs inside another.  All
operations are structural recursions on lists of characters; the versions on strings wrap them.

## Main definitions

* `isBlank`, `trim`, `trimWhile`: what is blank, and texts without it at their ends.
* `words`: the maximal runs without blanks.
* `hasInfix`: whether a pattern occurs somewhere in a text.
-/

namespace CodeSurvey
namespace Text

/-- The characters with the property White_Space. -/
def isBlank (c : Char) : Bool :=
  c == ' ' || (0x09 ≤ c.toNat && c.toNat ≤ 0x0d) || c.toNat == 0x85 || c.toNat == 0xa0 ||
    c.toNat == 0x1680 || (0x2000 ≤ c.toNat && c.toNat ≤ 0x200a) || c.toNat == 0x2028 ||
    c.toNat == 0x2029 || c.toNat == 0x202f || c.toNat == 0x205f || c.toNat == 0x3000

/-! ## Trimming -/

/-- A list without its last elements that satisfy `drop`. -/
def dropWhileEnd (drop : Char → Bool) (cs : List Char) : List Char :=
  (cs.reverse.dropWhile drop).reverse

/-- A list without the elements at either end that satisfy `drop`. -/
def trimChars (drop : Char → Bool) (cs : List Char) : List Char :=
  dropWhileEnd drop (cs.dropWhile drop)

/-- The text without the characters at either end that satisfy `drop`. -/
def trimWhile (drop : Char → Bool) (text : String) : String :=
  String.ofList (trimChars drop text.toList)

/-- The text without the blanks at either end. -/
def trim (text : String) : String := trimWhile isBlank text

/-- Whether a text holds nothing but blanks. -/
def isBlankText (text : String) : Bool := text.toList.all isBlank

/-! ## Words -/

/-- The words of the remaining characters, where `current` is the word being read, in reverse. -/
def wordsFrom : (current : List Char) → List Char → List (List Char)
  | current, [] => if current.isEmpty then [] else [current.reverse]
  | current, c :: cs =>
      if isBlank c then
        if current.isEmpty then wordsFrom [] cs else current.reverse :: wordsFrom [] cs
      else wordsFrom (c :: current) cs

/-- The maximal runs of characters between blanks, in order. -/
def words (text : String) : List String := (wordsFrom [] text.toList).map String.ofList

/-! ## Infixes -/

/-- Whether `pattern` occurs as a contiguous part of a list of characters. -/
def hasInfixChars (pattern : List Char) : List Char → Bool
  | [] => pattern.isEmpty
  | c :: cs => pattern.isPrefixOf (c :: cs) || hasInfixChars pattern cs

/-- Whether `pattern` occurs as a contiguous part of the text. -/
def hasInfix (text pattern : String) : Bool := hasInfixChars pattern.toList text.toList

end Text
end CodeSurvey
