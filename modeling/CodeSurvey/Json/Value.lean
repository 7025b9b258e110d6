import CodeSurvey.Decimal.Literal
import CodeSurvey.Decimal.Shortest

/-!
# Values of the interchange format

A value is null, a truth value, a number, a text, an array or an object.  Whole numbers in the
range of 64 bits, with or without a sign, are integers; every other number is kept as a decimal
literal, because only its reader knows to which precision it is to be rounded.  An object keeps
the order of its fields, and may hold a key more than once.

Values of other formats are given in the same shape.  Such a format may round its numbers itself,
and may find out that a number makes no sense only when it is looked at.
-/

namespace CodeSurvey

/-- A value of the interchange format.  A `float` has been rounded already.  What has no other place
here, such as a text that is no sequence of Unicode characters and an object with such a key, is
`unreadable`: it may stand where values are ignored, and nowhere else.  What is `malformed` may not
even be ignored; it may stand only where no value is looked for at all. -/
inductive Json where
  | null
  | bool (value : Bool)
  | integer (value : Int)
  | decimal (value : Decimal.Literal)
  | float (value : Float32)
  | text (value : String)
  | unreadable
  | malformed
  | array (items : List Json)
  | object (fields : List (String × Json))
  deriving Inhabited

namespace Json

/-- The array of the images of a list. -/
def listOf {α : Type} (encode : α → Json) (xs : List α) : Json := .array (xs.map encode)

/-- The image of an optional value, and null when there is none. -/
def optional {α : Type} (encode : α → Json) : Option α → Json
  | none => .null
  | some x => encode x

/-- A natural number. -/
def nat (n : Nat) : Json := .integer n

/-- The literal with the fewest digits that reads back as the finite number with the given
parts. -/
def finiteLiteral (negative : Bool) (mantissa : Nat) (exponent : Int) : Decimal.Literal :=
  if mantissa = 0 then ⟨negative, 0, 0⟩
  else
    let value := Decimal.Fraction.dyadic mantissa exponent
    let leading := Decimal.leadingExponent value 39 90
    let (digits, place) := Decimal.shortestFrom (.of mantissa exponent) value leading 9
    ⟨negative, digits, place⟩

/-- A single-precision number: its shortest literal, and null for infinities and what is not a
number. -/
def float32 (x : Float32) : Json :=
  match Decimal.Binary32.of x with
  | .notANumber | .infinite _ => .null
  | .finite negative mantissa exponent => .decimal (finiteLiteral negative mantissa exponent)

end Json

end CodeSurvey
