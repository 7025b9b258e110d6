import CodeSurvey.Json.Value
import CodeSurvey.Text.Hexadecimal

/-!
# Numbers in documents

Whole numbers are written to the bases ten, sixteen, eight and two; decimals have a fraction, an
exponent or both.  An underscore may stand between two digits.  A number that is written to the base
ten may have a sign and has no superfluous leading zero.  There are words for infinities and for
what is not a number.

The document has a number wherever the characters have about the form of one.  Whether they make up
a number that can be had is another question: what goes on behind an underscore in any other way,
has no digits at all, or is too large, is malformed.

## Main definitions

* `Number.ungroup?`: digits without underscores.
* `Number.based?`, `Number.decimal?`, `Number.whole?`: the three ways to write a number.
* `Number.read?`: any number.
-/

namespace CodeSurvey
namespace Toml
namespace Number

/-- The sign in front of a number, if there is one, and what follows it. -/
def sign : List Char → Option Bool × List Char
  | '+' :: cs => (some false, cs)
  | '-' :: cs => (some true, cs)
  | cs => (none, cs)

/-! ## Underscores -/

/-- The characters without the underscores among them, each of which has a digit behind it, and a
digit or the sign of the number in front of it.  What stands in front of the first character allows
an underscore or not. -/
def ungroup? (isDigit : Char → Bool) : (allowed : Bool) → List Char → Option (List Char)
  | _, [] => some []
  | allowed, c :: cs =>
      if c = '_' then
        match cs with
        | d :: rest =>
            if allowed && isDigit d then (ungroup? isDigit true rest).map (d :: ·) else none
        | [] => none
      else (ungroup? isDigit (isDigit c) cs).map (c :: ·)

/-! ## Whole numbers -/

/-- Whether the character is a digit to a base of at most sixteen. -/
def isDigitTo (base : Nat) (c : Char) : Bool :=
  match Hexadecimal.value? c with
  | some digit => decide (digit < base)
  | none => false

/-- The number that digits to a base stand for. -/
def toBase (base : Nat) (digits : List Char) : Nat :=
  digits.foldl (fun n c => base * n + (Hexadecimal.value? c).getD 0) 0

/-- A whole number.  One that fits into 128 bits only cannot be used, and a longer one cannot be
had. -/
def ofInt (n : Int) : Json :=
  if -(Nat.pow 2 63) ≤ n ∧ n < Nat.pow 2 64 then .integer n
  else if -(Nat.pow 2 127) ≤ n ∧ n < Nat.pow 2 128 then .unreadable
  else .malformed

/-- The whole number that digits to a base stand for. -/
def ofDigits (base : Nat) (negative : Bool) (digits : List Char) : Json :=
  if digits.isEmpty || !digits.all (isDigitTo base) then .malformed
  else
    let n : Int := toBase base digits
    ofInt (if negative then -n else n)

/-- The base that a letter behind a zero stands for. -/
def base? : Char → Option Nat
  | 'x' => some 16
  | 'o' => some 8
  | 'b' => some 2
  | _ => none

/-- A whole number behind the letter of its base. -/
def based? (base : Nat) (cs : List Char) : Option Json :=
  if cs.all fun c => isDigitTo base c || c == '_' then
    (ungroup? (isDigitTo 16) false cs).map (ofDigits base false)
  else none

/-- A whole number to the base ten behind its sign. -/
def whole? (negative : Option Bool) (cs : List Char) : Option Json :=
  if cs.head? == some '0' && cs != ['0'] then none
  else (ungroup? (isDigitTo 16) negative.isSome cs).map (ofDigits 10 (negative.getD false))

/-! ## Decimals -/

/-- Whether the character is a digit or an underscore. -/
def isGrouped (c : Char) : Bool := Decimal.isDigit c || c == '_'

/-- What follows digits and underscores, if there is at least one digit. -/
def digits? (cs : List Char) : Option (List Char) :=
  if (cs.takeWhile isGrouped).any Decimal.isDigit then some (cs.dropWhile isGrouped) else none

/-- What follows the whole part of a decimal.  It has no superfluous leading zero. -/
def wholePart? (cs : List Char) : Option (List Char) :=
  let count := ((cs.takeWhile isGrouped).filter Decimal.isDigit).length
  if cs.head? == some '0' && decide (1 < count) then none else digits? cs

/-- What follows the fraction of a decimal, if there is one. -/
def fraction? : List Char → Option (List Char)
  | '.' :: cs => digits? cs
  | cs => some cs

/-- What follows the exponent of a decimal, if there is one. -/
def exponent? : List Char → Option (List Char)
  | [] => some []
  | c :: cs => if c == 'e' || c == 'E' then digits? (sign cs).2 else some (c :: cs)

/-- Whether the characters have the form of a decimal without its sign. -/
def isDecimal (cs : List Char) : Bool :=
  ((wholePart? cs).bind fraction?).bind exponent? == some []

/-- The value of a decimal, rounded to double and then to single precision.  It cannot be had when it
is too large for double precision. -/
def ofLiteral (literal : Decimal.Literal) : Json :=
  let x := literal.toFloat
  if x.isInf then .malformed else .float x.toFloat32

/-- A decimal behind its sign. -/
def decimal? (negative : Option Bool) (cs : List Char) : Option Json :=
  if isDecimal cs then
    (ungroup? Decimal.isDigit negative.isSome cs).bind fun plain =>
      (Decimal.readUnsigned? (negative.getD false) plain).map ofLiteral
  else none

/-! ## All numbers -/

/-- The number that a word stands for. -/
def special? (negative : Bool) (word : List Char) : Option Json :=
  if word = ['i', 'n', 'f'] then
    some (.float (Float32.ofBits (if negative then 0xff800000 else 0x7f800000)))
  else if word = ['n', 'a', 'n'] then some (.float (Float32.ofBits 0x7fc00000))
  else none

/-- Whether the character is the mark of a decimal: a point, or the letter of an exponent. -/
def marksDecimal (c : Char) : Bool := c == '.' || c == 'e' || c == 'E'

/-- A number to the base ten behind its sign.  Behind its leading digits come the marks of a decimal,
an underscore, or nothing. -/
def baseTen? (negative : Option Bool) (cs : List Char) : Option Json :=
  let rest := cs.dropWhile Decimal.isDigit
  if rest.contains ' ' then none
  else if rest.any marksDecimal then decimal? negative cs
  else if rest.isEmpty || rest.head? == some '_' then whole? negative cs
  else none

/-- A number behind its sign. -/
def unsigned? (negative : Option Bool) (cs : List Char) : Option Json :=
  match cs with
  | '0' :: letter :: rest =>
      match base? letter with
      | some base => if negative.isSome then none else based? base rest
      | none => baseTen? negative cs
  | c :: _ =>
      if isGrouped c then baseTen? negative cs else special? (negative.getD false) cs
  | [] => none

/-- A number. -/
def read? (cs : List Char) : Option Json :=
  let (negative, cs) := sign cs
  unsigned? negative cs

end Number
end Toml
end CodeSurvey
