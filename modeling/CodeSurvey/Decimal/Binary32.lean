/-!
# The parts of a single-precision number

A single-precision number is not a number, an infinity, or a signed integer multiple of a power
of two.  Decimal texts are computed from these parts in exact arithmetic on natural numbers.
-/

namespace CodeSurvey
namespace Decimal

/-- A single-precision number taken apart.  A finite number is `mantissa * 2 ^ exponent`, negated
when `negative` holds; both zeros have mantissa zero. -/
inductive Binary32 where
  | notANumber
  | infinite (negative : Bool)
  | finite (negative : Bool) (mantissa : Nat) (exponent : Int)
  deriving DecidableEq, Repr

/-- The parts that a pattern of 32 bits stands for: one sign bit, eight bits of exponent and 23
bits of fraction. -/
def Binary32.ofBits (bits : UInt32) : Binary32 :=
  let code : Nat := bits.toNat
  let negative := decide (code / Nat.pow 2 31 = 1)
  let biased : Nat := code / Nat.pow 2 23 % Nat.pow 2 8
  let fraction : Nat := code % Nat.pow 2 23
  if biased = 255 then
    if fraction = 0 then .infinite negative else .notANumber
  else if biased = 0 then .finite negative fraction (-149)
  else .finite negative (Nat.pow 2 23 + fraction) ((biased : Int) - 150)

/-- The parts of a number. -/
def Binary32.of (x : Float32) : Binary32 := .ofBits x.toBits

end Decimal
end CodeSurvey
