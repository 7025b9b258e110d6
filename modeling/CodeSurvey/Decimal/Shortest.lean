import CodeSurvey.Decimal.Fixed

/-!
# The shortest decimal text of a number

The text has the fewest significant digits that still read back as the same number, and of those
the ones nearest to it; half-way between two of them the larger magnitude is written.  A decimal
reads back as a number when it lies in the interval of reals that round to the number, whose ends
belong to it exactly when the mantissa is even.  For one, two, ... up to nine digits the two
neighbours of the value on that decimal grid are tried in exact arithmetic.  No exponent is ever
written, and no point after a whole number.
-/

namespace CodeSurvey
namespace Decimal

/-- A non-negative fraction. -/
structure Fraction where
  numerator : Nat
  denominator : Nat

/-- The fraction `n * 2 ^ exponent`. -/
def Fraction.dyadic (n : Nat) (exponent : Int) : Fraction :=
  match exponent with
  | .ofNat shift => ⟨n * Nat.pow 2 shift, 1⟩
  | .negSucc shift => ⟨n, Nat.pow 2 (shift + 1)⟩

/-- The fraction `n * 10 ^ exponent`. -/
def Fraction.decimal (n : Nat) (exponent : Int) : Fraction :=
  match exponent with
  | .ofNat shift => ⟨n * Nat.pow 10 shift, 1⟩
  | .negSucc shift => ⟨n, Nat.pow 10 (shift + 1)⟩

/-- Whether the first fraction is less than the second. -/
def Fraction.less (a b : Fraction) : Bool :=
  decide (a.numerator * b.denominator < b.numerator * a.denominator)

/-- The distance of two fractions. -/
def Fraction.distance (a b : Fraction) : Fraction :=
  let left := a.numerator * b.denominator
  let right := b.numerator * a.denominator
  ⟨(left - right) + (right - left), a.denominator * b.denominator⟩

/-- The reals that round to one number. -/
structure RoundingInterval where
  low : Fraction
  high : Fraction
  closed : Bool

/-- The interval of the number `mantissa * 2 ^ exponent`, which ends half-way to its neighbours.
The neighbour below a power of two is nearer by half. -/
def RoundingInterval.of (mantissa : Nat) (exponent : Int) : RoundingInterval where
  low :=
    let narrow := decide (mantissa = Nat.pow 2 23) && decide (-149 < exponent)
    Fraction.dyadic (4 * mantissa - (if narrow then 1 else 2)) (exponent - 2)
  high := Fraction.dyadic (4 * mantissa + 2) (exponent - 2)
  closed := mantissa % 2 == 0

/-- Whether a fraction rounds to the number of the interval. -/
def RoundingInterval.holds (interval : RoundingInterval) (x : Fraction) : Bool :=
  if interval.closed then !x.less interval.low && !interval.high.less x
  else interval.low.less x && x.less interval.high

/-- The exponent of the leading decimal digit of a positive fraction, sought downwards from
`10 ^ exponent`. -/
def leadingExponent (x : Fraction) : (exponent : Int) → (fuel : Nat) → Int
  | exponent, 0 => exponent
  | exponent, fuel + 1 =>
      if x.less (Fraction.decimal 1 exponent) then leadingExponent x (exponent - 1) fuel
      else exponent

/-- The multiple of `10 ^ exponent` at or below a fraction. -/
def gridBelow (x : Fraction) (exponent : Int) : Nat :=
  match exponent with
  | .ofNat shift => x.numerator / (x.denominator * Nat.pow 10 shift)
  | .negSucc shift => x.numerator * Nat.pow 10 (shift + 1) / x.denominator

/-- The point of the grid of `10 ^ exponent` that lies in the interval and is nearest to `x`: of two
that are equally near, the one above. -/
def gridPoint (interval : RoundingInterval) (x : Fraction) (exponent : Int) : Option Nat :=
  let below := gridBelow x exponent
  let low := Fraction.decimal below exponent
  let high := Fraction.decimal (below + 1) exponent
  match interval.holds low, interval.holds high with
  | true, true =>
      if (low.distance x).less (high.distance x) then some below else some (below + 1)
  | true, false => some below
  | false, true => some (below + 1)
  | false, false => none

/-- Digits and exponent of the first grid, from the coarsest on, with a point in the interval. -/
def shortestFrom (interval : RoundingInterval) (x : Fraction) :
    (exponent : Int) → (fuel : Nat) → Nat × Int
  | exponent, 0 => (gridBelow x exponent, exponent)
  | exponent, fuel + 1 =>
      match gridPoint interval x exponent with
      | some n => (n, exponent)
      | none => shortestFrom interval x (exponent - 1) fuel

/-- Removes the zeros at the end of a number and counts them in the exponent. -/
def stripZeros : (n : Nat) → (exponent : Int) → (fuel : Nat) → Nat × Int
  | n, exponent, 0 => (n, exponent)
  | n, exponent, fuel + 1 =>
      if n % 10 = 0 then stripZeros (n / 10) (exponent + 1) fuel else (n, exponent)

/-- The text of `n * 10 ^ exponent` without an exponent. -/
def positional (n : Nat) (exponent : Int) : String :=
  match exponent with
  | .ofNat shift => (n * Nat.pow 10 shift).repr
  | .negSucc shift => pointed n (shift + 1)

/-- The shortest text that reads back as the number. -/
def shortest (x : Float32) : String :=
  match Binary32.of x with
  | .notANumber => "NaN"
  | .infinite negative => signText negative ++ "inf"
  | .finite negative mantissa exponent =>
      if mantissa = 0 then signText negative ++ "0"
      else
        let value := Fraction.dyadic mantissa exponent
        let leading := leadingExponent value 39 90
        let (n, place) := shortestFrom (.of mantissa exponent) value leading 9
        let (digits, place) := stripZeros n place 60
        signText negative ++ positional digits place

end Decimal
end CodeSurvey
