/-!
# Decimal literals and the numbers they stand for

A literal is a sign, a whole number of digits and a power of ten.  It is rounded once, to the
nearest number of single or double precision.  Exponents far outside the range of the target are
settled without computing the power: the value is then an infinity or a zero.
-/

namespace CodeSurvey
namespace Decimal

/-- The decimal `significand * 10 ^ exponent`, negated when `negative` holds. -/
structure Literal where
  negative : Bool
  significand : Nat
  exponent : Int
  deriving DecidableEq, Repr

/-- How many digits the significand has. -/
def Literal.digits (l : Literal) : Nat := l.significand.repr.length

/-- Whether the value is at least `10 ^ limit`. -/
def Literal.exceeds (l : Literal) (limit : Nat) : Bool :=
  l.significand != 0 && decide ((limit : Int) < l.exponent + l.digits)

/-- Whether the value is below `10 ^ -limit`. -/
def Literal.vanishes (l : Literal) (limit : Nat) : Bool :=
  l.significand == 0 || decide (l.exponent + l.digits < -(limit : Int))

/-- The nearest single-precision number. -/
def Literal.toFloat32 (l : Literal) : Float32 :=
  let magnitude : Float32 :=
    if l.exceeds 50 then Float32.ofBits 0x7f800000
    else if l.vanishes 60 then 0
    else Float32.ofScientific l.significand (decide (l.exponent < 0)) l.exponent.natAbs
  if l.negative then -magnitude else magnitude

/-- The nearest double-precision number. -/
def Literal.toFloat (l : Literal) : Float :=
  let magnitude : Float :=
    if l.exceeds 320 then Float.ofBits 0x7ff0000000000000
    else if l.vanishes 350 then 0
    else Float.ofScientific l.significand (decide (l.exponent < 0)) l.exponent.natAbs
  if l.negative then -magnitude else magnitude

/-! ## Reading digits -/

/-- Whether the character is one of the ten decimal digits. -/
def isDigit (c : Char) : Bool := decide ('0' ≤ c) && decide (c ≤ '9')

/-- The value of a digit. -/
def digitValue (c : Char) : Nat := c.toNat - '0'.toNat

/-- The number that a list of digits continues from `start`. -/
def digitsFrom (start : Nat) (cs : List Char) : Nat :=
  cs.foldl (fun n c => 10 * n + digitValue c) start

/-- The number that a list of digits stands for. -/
def ofDigits (cs : List Char) : Nat := digitsFrom 0 cs

/-- The number that a non-empty text of digits stands for, with an optional plus sign, when it is
below `bound`. -/
def readNat? (bound : Nat) (text : String) : Option Nat :=
  let cs := match text.toList with
    | '+' :: rest => rest
    | cs => cs
  if cs.isEmpty || !cs.all isDigit then none
  else
    let n := ofDigits cs
    if n < bound then some n else none

/-- An exponent: an optional sign and at least one digit, and nothing after it. -/
def readExponent? (cs : List Char) : Option Int :=
  let (negative, digits) := match cs with
    | '+' :: rest => (false, rest)
    | '-' :: rest => (true, rest)
    | cs => (false, cs)
  if digits.isEmpty || !digits.all isDigit then none
  else
    let n := ofDigits digits
    some (if negative then -(n : Int) else (n : Int))

/-- A decimal without its sign: digits with at most one point among them, at least one digit, and
then an optional exponent. -/
def readUnsigned? (negative : Bool) (cs : List Char) : Option Literal :=
  let whole := cs.takeWhile isDigit
  let afterWhole := cs.dropWhile isDigit
  let (fraction, rest) := match afterWhole with
    | '.' :: tail => (tail.takeWhile isDigit, tail.dropWhile isDigit)
    | tail => ([], tail)
  if whole.isEmpty && fraction.isEmpty then none
  else
    let significand := ofDigits (whole ++ fraction)
    match rest with
    | [] => some ⟨negative, significand, -(fraction.length : Int)⟩
    | c :: tail =>
        if c == 'e' || c == 'E' then
          (readExponent? tail).map fun e => ⟨negative, significand, e - fraction.length⟩
        else none

/-- The small form of an ASCII capital. -/
def smallLetter (c : Char) : Char :=
  if decide ('A' ≤ c) && decide (c ≤ 'Z') then Char.ofNat (c.toNat + 32) else c

/-- A single-precision number: an optional sign and then a decimal, or one of the words `inf`,
`infinity` and `nan` in any letter case. -/
def readFloat32? (text : String) : Option Float32 :=
  let (negative, cs) := match text.toList with
    | '+' :: rest => (false, rest)
    | '-' :: rest => (true, rest)
    | cs => (false, cs)
  let word := String.ofList (cs.map smallLetter)
  if word == "inf" || word == "infinity" then
    some (Float32.ofBits (if negative then 0xff800000 else 0x7f800000))
  else if word == "nan" then some (Float32.ofBits 0x7fc00000)
  else (readUnsigned? negative cs).map Literal.toFloat32

end Decimal
end CodeSurvey
