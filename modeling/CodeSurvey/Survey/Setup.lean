import CodeSurvey.Gate.Evaluator
import CodeSurvey.Fusion

/-!
# The setup of a survey

The settings of a survey together with what has to be known about the collaborators beyond their
answers: their names, the measure of similarity and whether there is a judge.
-/

namespace CodeSurvey

/-- What is known about the collaborators of a survey. -/
structure Collaborators where
  summarizer : String
  embedder : String
  similarity : Similarity
  hasJudge : Bool

/-- What a survey is carried out with.  A strategy of the caller replaces the configured one, and
post-processors are given by their names. -/
structure Setup where
  settings : Settings
  collaborators : Collaborators
  strategy : Option Strategy
  postProcessors : List String

namespace Setup

/-- The evaluator of a setup. -/
def evaluator (setup : Setup) : Evaluator where
  similarity := setup.collaborators.similarity
  strategy := setup.strategy.getD
    (Strategy.build setup.settings.policy.strategy setup.collaborators.hasJudge)
  thresholds := setup.settings.policy.thresholds
  maxConcurrentCalls := setup.settings.limits.maxConcurrentCalls

/-- The time a call may take, as text.  No time at all is given in the smallest unit. -/
def timeoutText (setup : Setup) : String :=
  let seconds := setup.settings.limits.callTimeoutSecs
  if seconds = 0 then "0ns" else seconds.repr ++ "s"

/-- The fusion of a setup. -/
def fuse (setup : Setup) (inputs : FusionInputs) (targets : Option TargetSet) (store : Store) :
    Plan (Store × FusionReport) :=
  Fusion.fuse .standard setup.settings.policy.ensembleMode inputs targets store

end Setup

end CodeSurvey
