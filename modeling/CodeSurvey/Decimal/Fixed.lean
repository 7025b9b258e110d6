import CodeSurvey.Decimal.Binary32

/-!
# Decimal texts with a fixed number of places

The exact value of a number is rounded to the nearest multiple of a power of ten; a tie goes to
the neighbour with an even last digit.  The sign is kept also where the digits are all zero.
-/

namespace CodeSurvey
namespace Decimal

/-- The quotient rounded to the nearest natural number, a tie to the even one. -/
def roundDiv (numerator denominator : Nat) : Nat :=
  let quotient := numerator / denominator
  let rest := numerator % denominator
  if 2 * rest < denominator then quotient
  else if denominator < 2 * rest then quotient + 1
  else if quotient % 2 = 0 then quotient else quotient + 1

/-- The multiple of `10 ^ -places` nearest to `mantissa * 2 ^ exponent`, in units of that
power. -/
def scaled (mantissa : Nat) (exponent : Int) (places : Nat) : Nat :=
  match exponent with
  | .ofNat shift => mantissa * Nat.pow 2 shift * Nat.pow 10 places
  | .negSucc shift => roundDiv (mantissa * Nat.pow 10 places) (Nat.pow 2 (shift + 1))

/-- A count of units of `10 ^ -places` written with `places` digits after the point. -/
def pointed (units places : Nat) : String :=
  if places = 0 then units.repr
  else
    let fraction := (units % Nat.pow 10 places).repr
    (units / Nat.pow 10 places).repr ++ "." ++
      String.ofList (List.replicate (places - fraction.length) '0') ++ fraction

/-- The sign of a negative number, and nothing for any other. -/
def signText (negative : Bool) : String := if negative then "-" else ""

/-- The number written with `places` digits after the point. -/
def fixed (places : Nat) (x : Float32) : String :=
  match Binary32.of x with
  | .notANumber => "NaN"
  | .infinite negative => signText negative ++ "inf"
  | .finite negative mantissa exponent =>
      signText negative ++ pointed (scaled mantissa exponent places) places

end Decimal
end CodeSurvey
