/-!
# Vectors and their similarity

Vectors are lists of single-precision numbers.  A similarity is any function of two vectors that
is meant to lie between zero and one; the standard one is the cosine of the angle, with negative
values raised to zero.  Sums run from left to right and start at minus zero, so that a sum of
negative zeros is a negative zero.

## Main definitions

* `cosine`: the cosine, and zero for vectors without a direction in common space.
* `clampUnit`: the nearest number between zero and one.  It keeps what is not a number.
* `Similarity.cosine`: the clamped cosine.
-/

namespace CodeSurvey

/-- A vector of single-precision numbers. -/
abbrev Vector32 := List Float32

/-- A measure of how alike two vectors are. -/
abbrev Similarity := Vector32 → Vector32 → Float32

/-- The number minus zero, where sums start. -/
def negativeZero : Float32 := Float32.ofBits 0x80000000

/-- The sum from left to right. -/
def sum32 (xs : Vector32) : Float32 := xs.foldl (· + ·) negativeZero

/-- The sum of the products of corresponding components. -/
def dot (a b : Vector32) : Float32 := sum32 (List.zipWith (· * ·) a b)

/-- The Euclidean length of a vector. -/
def norm (a : Vector32) : Float32 := (dot a a).sqrt

/-- The cosine of the angle between two vectors.  It is zero for vectors of different length, for
empty ones and when one of them has length zero. -/
def cosine (a b : Vector32) : Float32 :=
  if a.length != b.length || a.isEmpty then 0
  else if norm a == 0 || norm b == 0 then 0
  else dot a b / (norm a * norm b)

/-- The number, raised to zero if it is less and lowered to one if it is greater. -/
def clampUnit (x : Float32) : Float32 :=
  let raised := if x < 0 then 0 else x
  if raised > 1 then 1 else raised

/-- The cosine, clamped to the unit interval. -/
def Similarity.cosine : Similarity := fun a b => clampUnit (CodeSurvey.cosine a b)

end CodeSurvey
