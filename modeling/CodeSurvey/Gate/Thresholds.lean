import CodeSurvey.Text.Blank

/-!
# The thresholds of the quality gate

The gate tells missing summaries from present ones, scores too low from sufficient ones, and a
systemic failure from isolated weaknesses.
-/

namespace CodeSurvey

/-- The limits that the gate compares with, and the signs of a failed summary. -/
structure Thresholds where
  systemic : Float32
  perEntity : Float32
  borderlineUpper : Float32
  minSummaryLength : Nat
  errorMarkers : List String
  neutral : Float32

namespace Thresholds

/-- Whether a summary counts as not produced at all: without its outer blanks it is empty, too
short, or contains the mark of an error. -/
def isMissing (thresholds : Thresholds) (summary : String) : Bool :=
  let text := Text.trim summary
  text.isEmpty || decide (text.length < thresholds.minSummaryLength) ||
    thresholds.errorMarkers.any (Text.hasInfix text)

/-- Whether an aggregate score lies in the band in which the judge is consulted. -/
def isBorderline (thresholds : Thresholds) (aggregate : Float32) : Bool :=
  decide (aggregate ≥ thresholds.systemic) && decide (aggregate < thresholds.borderlineUpper)

end Thresholds

end CodeSurvey
