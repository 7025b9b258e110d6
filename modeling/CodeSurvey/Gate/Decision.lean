import CodeSurvey.EntityId
import CodeSurvey.Gate.Thresholds

/-!
# Decisions and evaluations

An evaluation says which summaries are missing, which scores are low, what the mean score is and
what is to be done next.
-/

namespace CodeSurvey

/-- What is to be done after an evaluation. -/
inductive Decision where
  | accept
  | retryAll
  | retrySubset
  deriving DecidableEq, Repr

/-- The name of a decision. -/
def Decision.name : Decision → String
  | .accept => "accept"
  | .retryAll => "retry_all"
  | .retrySubset => "retry_subset"

/-- The result of one evaluation pass.  `scored` entities contribute to the aggregate. -/
structure Evaluation where
  missing : TargetSet
  aggregate : Float32
  low : TargetSet
  decision : Decision
  scored : Nat

/-- What a selective retry would analyze again. -/
def Evaluation.retryTargets (evaluation : Evaluation) : TargetSet :=
  OrderedSet.union evaluation.low evaluation.missing

/-- What a strategy may look at when no summary is missing. -/
structure DecisionContext where
  aggregate : Float32
  low : TargetSet
  entityCount : Nat
  retryCount : UInt32
  thresholds : Thresholds

/-- The decision by thresholds alone: a systemic failure, then weak entities, then acceptance. -/
def DecisionContext.classify (context : DecisionContext) : Decision :=
  if context.aggregate < context.thresholds.systemic then .retryAll
  else if !context.low.isEmpty then .retrySubset
  else .accept

end CodeSurvey
