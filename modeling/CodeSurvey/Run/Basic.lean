import CodeSurvey.EntityId
import CodeSurvey.Failure
import CodeSurvey.Gate.Decision
import CodeSurvey.Run.Id

/-!
# Runs

A run is one request for a survey.  It carries its retry counter and the ceiling of the counter,
and moves through phases; the stages it executes are recorded in a log.

## Main definitions

* `Run.scheduleRetry`: spends one retry, unless the ceiling is reached.
* `Run.settle`: the decision taken on an evaluation; at the ceiling it is to accept.
-/

namespace CodeSurvey

/-! ## Status and phases -/

/-- How far a run has come. -/
inductive RunStatus where
  | pending
  | running
  | completed
  | failed
  deriving DecidableEq, Repr

/-- The name of a status. -/
def RunStatus.name : RunStatus → String
  | .pending => "pending"
  | .running => "running"
  | .completed => "completed"
  | .failed => "failed"

/-- The phase a run is in. -/
inductive Phase where
  | pending
  | ingesting
  | analyzing
  | fusing
  | evaluating
  | retrying
  | accepted
  | postProcessing
  | done
  | failed
  deriving DecidableEq, Repr

namespace Phase

/-- The name of a phase. -/
def name : Phase → String
  | .pending => "pending"
  | .ingesting => "ingesting"
  | .analyzing => "analyzing"
  | .fusing => "fusing"
  | .evaluating => "evaluating"
  | .retrying => "retrying"
  | .accepted => "accepted"
  | .postProcessing => "post_processing"
  | .done => "done"
  | .failed => "failed"

/-- The share of the work that a run in the phase has behind it, in percent. -/
def progress : Phase → Nat
  | .pending => 0
  | .ingesting => 5
  | .analyzing => 20
  | .fusing => 50
  | .evaluating => 70
  | .retrying => 75
  | .accepted => 85
  | .postProcessing => 90
  | .done => 100
  | .failed => 100

/-- Whether a run never leaves the phase. -/
def isTerminal : Phase → Bool
  | .done | .failed => true
  | _ => false

end Phase

/-! ## Stages -/

/-- The stages of a run. -/
inductive Stage where
  | ingest
  | summarize
  | parse
  | embed
  | fuse
  | evaluate
  | postProcess
  deriving DecidableEq, Repr

/-- The name of a stage. -/
def Stage.name : Stage → String
  | .ingest => "ingest"
  | .summarize => "summarize"
  | .parse => "parse"
  | .embed => "embed"
  | .fuse => "fuse"
  | .evaluate => "evaluate"
  | .postProcess => "post_process"

/-- Whether a stage succeeded, or failed and contributed an empty result. -/
inductive StageStatus where
  | success
  | degraded
  deriving DecidableEq, Repr

/-- The name of a stage's status. -/
def StageStatus.name : StageStatus → String
  | .success => "success"
  | .degraded => "degraded"

/-- A line of the stage log.  The first pass has number zero. -/
structure StageEntry where
  stage : Stage
  status : StageStatus
  pass : UInt32
  detail : String
  deriving DecidableEq, Repr

/-! ## Runs -/

/-- A request for a survey.  Without targets the next pass covers every entity. -/
structure Run where
  id : RunId
  retryCount : UInt32
  maxRetries : UInt32
  status : RunStatus
  targets : Option TargetSet
  deriving DecidableEq

namespace Run

/-- A run that has not started. -/
def new (id : RunId) (maxRetries : UInt32) : Run := ⟨id, 0, maxRetries, .pending, none⟩

/-- Whether no retry is left. -/
def ceilingReached (run : Run) : Bool := decide (run.maxRetries ≤ run.retryCount)

/-- Schedules another pass, restricted to the targets if there are any. -/
def scheduleRetry (run : Run) (targets : Option TargetSet) : Except Failure Run :=
  if run.ceilingReached then
    .error (.invalidOperation
      ("retry ceiling of " ++ run.maxRetries.toNat.repr ++ " reached for run " ++ run.id.text))
  else .ok { run with retryCount := run.retryCount + 1, targets := targets }

/-- The decision taken on an evaluation: its own one while retries are left, and to accept once
the ceiling is reached. -/
def settle (run : Run) (evaluation : Evaluation) : Decision :=
  if run.ceilingReached then .accept else evaluation.decision

end Run

end CodeSurvey
