import CodeSurvey.Run.Basic
import CodeSurvey.Store

/-!
# The progress of a survey

What a run has produced so far: the store, the latest evaluation with the decision taken on it, the
number of evaluation passes, the log of its stages and the error it failed with.
-/

namespace CodeSurvey

/-- What a run has produced so far. -/
structure Progress where
  run : Run
  store : Store
  evaluation : Option Evaluation
  decision : Option Decision
  passes : UInt32
  log : List StageEntry
  error : Option String

namespace Progress

/-- The progress of a run that has just begun. -/
def start (run : Run) : Progress where
  run := { run with status := .running }
  store := .empty
  evaluation := none
  decision := none
  passes := 0
  log := []
  error := none

/-- The progress with more lines in the log. -/
def record (progress : Progress) (entries : List StageEntry) : Progress :=
  { progress with log := progress.log ++ entries }

/-- The progress of a run that has failed. -/
def fail (progress : Progress) (error : String) : Progress :=
  { progress with run := { progress.run with status := .failed }, error := some error }

/-- The progress of a run that has been completed. -/
def complete (progress : Progress) : Progress :=
  { progress with run := { progress.run with status := .completed } }

/-- The progress with an evaluation and the decision taken on it. -/
def evaluated (progress : Progress) (evaluation : Evaluation) (decision : Decision) : Progress :=
  { progress with
    evaluation := some evaluation
    decision := some decision
    passes := progress.passes + 1 }

@[simp]
theorem record_run (progress : Progress) (entries : List StageEntry) :
    (progress.record entries).run = progress.run :=
  rfl

@[simp]
theorem evaluated_run (progress : Progress) (evaluation : Evaluation) (decision : Decision) :
    (progress.evaluated evaluation decision).run = progress.run :=
  rfl

@[simp]
theorem evaluated_passes (progress : Progress) (evaluation : Evaluation) (decision : Decision) :
    (progress.evaluated evaluation decision).passes = progress.passes + 1 :=
  rfl

@[simp]
theorem fail_error (progress : Progress) (error : String) :
    (progress.fail error).error = some error :=
  rfl

end Progress

end CodeSurvey
