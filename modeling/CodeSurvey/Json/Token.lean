import CodeSurvey.Decimal.Literal
import CodeSurvey.Text.Hexadecimal

/-!
# Tokens of the interchange format

A text is cut into tokens by a machine that reads one character at a time.  Between tokens it
skips the four blanks of the format; inside a string it follows escapes, and pairs the halves of
characters that are written as two of them.

## Main definitions

* `Token`: punctuation, strings, numbers and words.
* `Token.scan?`: the tokens of a text, or nothing when some part of it is no token.
-/

namespace CodeSurvey
namespace Json

/-- A token.  A string whose escapes denote no Unicode text has no content. -/
inductive Token where
  | openBrace
  | closeBrace
  | openBracket
  | closeBracket
  | colon
  | comma
  | string (content : Option String)
  | number (digits : List Char)
  | word (letters : List Char)
  deriving DecidableEq, Repr

namespace Token

/-! ## Strings -/

/-- Where in an escape the machine is. -/
inductive Escape where
  | outside
  | backslash
  | unicode (digits : Nat) (code : Nat)
  deriving DecidableEq, Repr

/-- A string in the course of being read: its characters in reverse, whether it has been found to
be no Unicode text, and the first half of a character that waits for its second half. -/
structure StringState where
  chars : List Char
  broken : Bool
  high : Option Nat
  escape : Escape
  deriving DecidableEq, Repr

namespace StringState

/-- A string of which nothing has been read. -/
def start : StringState := ⟨[], false, none, .outside⟩

/-- The string with one more character.  A half character in front of it stays alone. -/
def push (state : StringState) (c : Char) : StringState :=
  ⟨c :: state.chars, state.broken || state.high.isSome, none, .outside⟩

/-- The string after an escape for a code unit of sixteen bits. -/
def pushUnit (state : StringState) (code : Nat) : StringState :=
  match state.high with
  | some high =>
      if 0xdc00 ≤ code ∧ code < 0xe000 then
        ⟨Char.ofNat (0x10000 + (high - 0xd800) * 0x400 + (code - 0xdc00)) :: state.chars,
          state.broken, none, .outside⟩
      else { state with broken := true, high := none, escape := .outside }
  | none =>
      if 0xd800 ≤ code ∧ code < 0xdc00 then
        { state with high := some code, escape := .outside }
      else if 0xdc00 ≤ code ∧ code < 0xe000 then
        { state with broken := true, escape := .outside }
      else state.push (Char.ofNat code)

/-- The character that a one-letter escape denotes. -/
def shortEscape? (c : Char) : Option Char :=
  if c = '"' ∨ c = '\\' ∨ c = '/' then some c
  else if c = 'b' then some '\x08'
  else if c = 'f' then some '\x0c'
  else if c = 'n' then some '\n'
  else if c = 'r' then some '\r'
  else if c = 't' then some '\t'
  else none

/-- The content of the string once its closing quote has been read. -/
def content (state : StringState) : Option String :=
  if state.broken || state.high.isSome then none else some (String.ofList state.chars.reverse)

end StringState

/-! ## The machine -/

/-- What is being read. -/
inductive Mode where
  | between
  | inString (state : StringState)
  | inNumber (digits : List Char)
  | inWord (letters : List Char)
  deriving DecidableEq, Repr

/-- The blanks between tokens. -/
def isSpace (c : Char) : Bool := c == ' ' || c == '\n' || c == '\t' || c == '\r'

/-- The characters of which numbers consist. -/
def isNumberChar (c : Char) : Bool :=
  Decimal.isDigit c || c == '-' || c == '+' || c == '.' || c == 'e' || c == 'E'

/-- The characters with which numbers begin. -/
def startsNumber (c : Char) : Bool := Decimal.isDigit c || c == '-'

/-- The characters of which words consist. -/
def isWordChar (c : Char) : Bool := decide ('a' ≤ c) && decide (c ≤ 'z')

/-- The token that a punctuation character is. -/
def punctuation? (c : Char) : Option Token :=
  if c = '\x7b' then some openBrace
  else if c = '\x7d' then some closeBrace
  else if c = '[' then some openBracket
  else if c = ']' then some closeBracket
  else if c = ':' then some colon
  else if c = ',' then some comma
  else none

/-- The mode after a character between tokens, and the token if the character is one. -/
def stepBetween (c : Char) : Option (Mode × List Token) :=
  if isSpace c then some (.between, [])
  else if c = '"' then some (.inString .start, [])
  else if startsNumber c then some (.inNumber [c], [])
  else if isWordChar c then some (.inWord [c], [])
  else (punctuation? c).map fun token => (.between, [token])

/-- The mode after a character inside a string. -/
def stepString (state : StringState) (c : Char) : Option (Mode × List Token) :=
  match state.escape with
  | .outside =>
      if c = '"' then some (.between, [.string state.content])
      else if c = '\\' then some (.inString { state with escape := .backslash }, [])
      else if c.toNat < 0x20 then none
      else some (.inString (state.push c), [])
  | .backslash =>
      if c = 'u' then some (.inString { state with escape := .unicode 0 0 }, [])
      else (StringState.shortEscape? c).map fun plain => (.inString (state.push plain), [])
  | .unicode digits code =>
      (Hexadecimal.value? c).map fun digit =>
        let code := 16 * code + digit
        if digits = 3 then (.inString (state.pushUnit code), [])
        else (.inString { state with escape := .unicode (digits + 1) code }, [])

/-- The mode after one character, and the tokens that it completes. -/
def step (mode : Mode) (c : Char) : Option (Mode × List Token) :=
  match mode with
  | .between => stepBetween c
  | .inString state => stepString state c
  | .inNumber digits =>
      if isNumberChar c then some (.inNumber (c :: digits), [])
      else (stepBetween c).map fun (mode, tokens) => (mode, .number digits.reverse :: tokens)
  | .inWord letters =>
      if isWordChar c then some (.inWord (c :: letters), [])
      else (stepBetween c).map fun (mode, tokens) => (mode, .word letters.reverse :: tokens)

/-- The tokens that the end of the text completes. -/
def finish : Mode → Option (List Token)
  | .between => some []
  | .inString _ => none
  | .inNumber digits => some [.number digits.reverse]
  | .inWord letters => some [.word letters.reverse]

/-- The tokens of the remaining characters, behind those found so far in reverse. -/
def scanFrom : Mode → List Token → List Char → Option (List Token)
  | mode, found, [] => (finish mode).map fun last => found.reverse ++ last
  | mode, found, c :: cs =>
      match step mode c with
      | some (mode, tokens) => scanFrom mode (tokens.reverse ++ found) cs
      | none => none

/-- The tokens of a text. -/
def scan? (text : String) : Option (List Token) := scanFrom .between [] text.toList

end Token
end Json
end CodeSurvey
