/-!
# Runs of code points

Properties of characters are given as sorted lists of stepped runs of code points: the run
`⟨first, last, step⟩` holds `first`, `first + step`, ... up to `last`.  A step of two occurs
where an alphabet alternates between its capital and its small letters.
-/

namespace CodeSurvey
namespace Text

/-- The code points `first`, `first + step`, ..., `last`. -/
structure CodeRun where
  first : Nat
  last : Nat
  step : Nat
  deriving DecidableEq, Repr

/-- Whether a code point lies on the run. -/
def CodeRun.holds (run : CodeRun) (code : Nat) : Bool :=
  decide (run.first ≤ code) && decide (code ≤ run.last) && (code - run.first) % run.step == 0

/-- Whether some run of a list of runs in ascending order holds the code point. -/
def CodeRun.covers : List CodeRun → Nat → Bool
  | [], _ => false
  | run :: runs, code =>
      if code < run.first then false
      else if code ≤ run.last then run.holds code
      else covers runs code

end Text
end CodeSurvey
