import CodeSurvey.Decimal.Literal

/-!
# Numbers scaled by a power of ten

A number may be computed from its digits in machine arithmetic: the leading digits that fit into 64
bits make up a whole number, which one operation of double precision multiplies with a power of ten
or divides by it.  Up to fifteen digits and a power of at most 22 the result is the nearest number;
beyond that it may be a neighbour of it.  This is how numbers of the interchange format are read.

## Main definitions

* `Literal.ofParts`: the literal made up of the leading digits that fit into 64 bits.
* `Literal.scaled?`: the number that a literal is scaled to.
-/

namespace CodeSurvey
namespace Decimal

/-! ## Leading digits -/

/-- Continues a number with digits for as long as it fits into 64 bits, and counts the digits that
are left over. -/
def continueWord : (start : Nat) → List Char → Nat × Nat
  | start, [] => (start, 0)
  | start, c :: cs =>
      let longer := 10 * start + digitValue c
      if longer < UInt64.size then continueWord longer cs else (start, cs.length + 1)

/-- The literal of the leading digits that fit into 64 bits.  Every digit that the whole part leaves
over is worth a factor of ten; what the fraction leaves over is worth nothing. -/
def Literal.ofParts (negative : Bool) (whole fraction : List Char) (exponent : Int) : Literal :=
  let (start, surplus) := continueWord 0 whole
  let (significand, rest) := continueWord start fraction
  ⟨negative, significand, exponent + surplus - (fraction.length - rest : Nat)⟩

/-! ## Scaling -/

/-- The double-precision number nearest to a power of ten. -/
def tenTo (n : Nat) : Float := Float.ofScientific 1 false n

/-- The number times a power of ten, unless the result is too large.  Zero stays zero. -/
def scaleUp? (x : Float) (n : Nat) : Option Float :=
  if n ≤ 308 then
    let product := x * tenTo n
    if product.isInf then none else some product
  else if x == 0 then some x
  else none

/-- The number divided by a power of ten, in two steps where the power has no double-precision
number. -/
def scaleDown (x : Float) (n : Nat) : Float :=
  if n ≤ 308 then x / tenTo n
  else if n ≤ 616 then x / tenTo 308 / tenTo (n - 308)
  else 0

/-- The double-precision number that the significand is scaled to, unless it is too large. -/
def Literal.scaled? (l : Literal) : Option Float :=
  let magnitude := match l.exponent with
    | .ofNat n => scaleUp? (Float.ofNat l.significand) n
    | .negSucc n => some (scaleDown (Float.ofNat l.significand) (n + 1))
  magnitude.map fun x => if l.negative then -x else x

end Decimal
end CodeSurvey
