import CodeSurvey.Capability.Plan
import CodeSurvey.Decimal.Fixed
import CodeSurvey.Judge.Verdict
import CodeSurvey.Settings.Basic

/-!
# Strategies of the quality gate

When no summary is missing, a strategy decides what is to be done next: by thresholds alone, by
consulting the judge inside the borderline band, or in a way of the caller's own.

## Main definitions

* `Strategy.build`: the strategy that is configured.
* `Strategy.decide`: the decision of a strategy.
-/

namespace CodeSurvey

/-- A way to decide. -/
inductive Strategy where
  | threshold
  | consult
  | custom (name : String)
  deriving DecidableEq, Repr

namespace Strategy

/-- The name of a strategy. -/
def name : Strategy → String
  | .threshold => "threshold"
  | .consult => "llm-consult"
  | .custom name => name

/-- The configured strategy.  Without a judge there is nobody to consult. -/
def build (kind : Settings.StrategyKind) (hasJudge : Bool) : Strategy :=
  match kind, hasJudge with
  | .consult, true => .consult
  | _, _ => .threshold

/-! ## Consulting the judge -/

/-- What the judge is told about its task. -/
def judgeInstructions : String :=
  "You are the quality gate of a code analysis pipeline.\n" ++
  "The aggregate consistency score measures how well generated summaries agree with the code " ++
  "they describe.\n\n" ++
  "Rules:\n" ++
  "1. If the number of analyzed entities is 0, answer \"retry_all\".\n" ++
  "2. If the score is borderline and most entities look weak, answer \"retry_all\".\n" ++
  "3. Otherwise answer \"accept\".\n\n" ++
  "Return ONLY a JSON object: \x7b\"decision\": \"accept\" or \"retry_all\", " ++
  "\"reason\": \"<one sentence>\"\x7d"

/-- What the judge is told about the case. -/
def caseReport (context : DecisionContext) : String :=
  "Aggregate consistency score: " ++ Decimal.fixed 2 context.aggregate ++ " (accept at >= " ++
  Decimal.fixed 2 context.thresholds.borderlineUpper ++ ")\n" ++
  "Entities analyzed: " ++ context.entityCount.repr ++ "\n" ++
  "Entities below per-entity threshold: " ++ context.low.size.repr ++ "\n" ++
  "Retry count: " ++ context.retryCount.toNat.repr

/-- The messages with which the judge is asked. -/
def judgeMessages (context : DecisionContext) : List Judge.Message := [
  ⟨.system, judgeInstructions⟩, ⟨.user, caseReport context⟩]

/-- How the judge is to answer. -/
def judgeGeneration : Judge.Generation where
  temperature := 0
  maxTokens := some 128
  jsonResponse := true

/-- The verdict of the judge, if it is there and gives one in time. -/
def consultJudge (context : DecisionContext) : Plan (Option Decision) := do
  match ← Plan.request .judgeAvailable with
  | .ok true =>
      match ← Plan.request (.askJudge (judgeMessages context) judgeGeneration) with
      | .ok content => return Judge.verdict? content
      | .failed _ | .timedOut => return none
      | .panicked => .crash
  | .ok false | .failed _ | .timedOut => return none
  | .panicked => .crash

/-! ## Deciding -/

/-- The decision of a strategy. -/
def decide (strategy : Strategy) (context : DecisionContext) : Plan Decision :=
  match strategy with
  | .threshold => return context.classify
  | .consult =>
      if context.thresholds.isBorderline context.aggregate then do
        match ← consultJudge context with
        | some decision => return decision
        | none => return context.classify
      else return context.classify
  | .custom _ => Plan.request (.decide context)

end Strategy

end CodeSurvey
