import CodeSurvey.Ingest
import CodeSurvey.Survey.Stages

/-!
# Carrying out a survey

A survey takes a snapshot of the repository and then makes passes: it analyzes, fuses and
evaluates, until the evaluation is accepted or no retry is left.  Then post-processors see the
result.  Between the phases a demanded cancellation is honoured.

## Main definitions

* `Survey.pass`: one pass, and how it ended.
* `Survey.passes`: passes until one is not to be followed by another.
* `Survey.execute`, `Survey.executeSnapshot`: the whole survey, with and without taking the
  snapshot.
-/

namespace CodeSurvey
namespace Survey

/-- Tells the observer of a phase. -/
def enter (phase : Phase) (progress : Progress) : Plan Unit :=
  Plan.request (.phase phase progress.run)

/-- Ends the survey with an error. -/
def abandon (progress : Progress) (error : String) : Plan Progress := do
  let progress := progress.fail error
  enter .failed progress
  return progress

/-! ## One pass -/

/-- How a pass ended: the survey was abandoned, the result was accepted, or another pass is
scheduled. -/
inductive PassEnd where
  | abandoned (progress : Progress)
  | accepted (progress : Progress)
  | again (progress : Progress)

/-- Goes on unless cancellation has been demanded. -/
def unlessCancelled (progress : Progress) (next : Plan PassEnd) : Plan PassEnd := do
  if ← Plan.cancelled then return .abandoned (← abandon progress Failure.cancelled.message)
  else next

/-- What a fusion has to say in the log. -/
def fuseDetail (report : FusionReport) : String :=
  report.primary.repr ++ " primary, " ++ report.synthesized.repr ++ " synthesized, " ++
    report.failed.length.repr ++ " failed, " ++ report.danglingEdges.repr ++ " dangling edges"

/-- What an evaluation has to say in the log. -/
def evaluateDetail (evaluation : Evaluation) (decision : Decision) : String :=
  "aggregate " ++ Decimal.fixed 3 evaluation.aggregate ++ ", " ++ evaluation.missing.size.repr ++
    " missing, " ++ evaluation.low.size.repr ++ " low quality, decision " ++ decision.name

/-- The targets of the next pass, if the decision asks for one. -/
def nextTargets (evaluation : Evaluation) : Decision → Option (Option TargetSet)
  | .accept => none
  | .retryAll => some none
  | .retrySubset => some (some evaluation.retryTargets)

/-- Schedules the pass that a decision asks for.  Where none can be scheduled, the result is
accepted. -/
def schedule (evaluation : Evaluation) (decision : Decision) (progress : Progress) :
    Plan PassEnd :=
  match nextTargets evaluation decision with
  | none => return .accepted progress
  | some targets =>
      match progress.run.scheduleRetry targets with
      | .error _ => return .accepted progress
      | .ok run => do
          let progress := { progress with run := run }
          enter .retrying progress
          return .again progress

/-- The evaluation of a pass with the targets that it had. -/
def evaluatePhase (setup : Setup) (targets : Option TargetSet) (pass : UInt32)
    (progress : Progress) : Plan PassEnd := do
  enter .evaluating progress
  let (store, evaluation) ←
    setup.evaluator.evaluate progress.store targets progress.run.retryCount
  let decision := progress.run.settle evaluation
  let progress := { progress with store := store }.record
    [⟨.evaluate, .success, pass, evaluateDetail evaluation decision⟩]
  Plan.request (.evaluated evaluation)
  schedule evaluation decision (progress.evaluated evaluation decision)

/-- The fusion of a pass. -/
def fusePhase (setup : Setup) (inputs : FusionInputs) (targets : Option TargetSet) (pass : UInt32)
    (progress : Progress) : Plan PassEnd := do
  enter .fusing progress
  let (store, report) ← setup.fuse inputs targets progress.store
  let progress := { progress with store := store }.record
    [⟨.fuse, .success, pass, fuseDetail report⟩]
  unlessCancelled progress (evaluatePhase setup targets pass progress)

/-- The analysis of a pass. -/
def analyzePhase (setup : Setup) (snapshot : Snapshot) (progress : Progress) : Plan PassEnd := do
  enter .analyzing progress
  let targets := progress.run.targets
  let pass := progress.passes
  let (results, entries) ← Stages.analyze setup snapshot targets pass
  let progress := progress.record entries
  let links := Stages.inferLinks setup results targets progress.store
  unlessCancelled progress
    (fusePhase setup ⟨results.summaries, results.graph, results.embeddings, links⟩ targets pass
      progress)

/-- One pass. -/
def pass (setup : Setup) (snapshot : Snapshot) (progress : Progress) : Plan PassEnd :=
  unlessCancelled progress (analyzePhase setup snapshot progress)

/-! ## After acceptance -/

/-- What a post-processor has to say in the log. -/
def postEntry (pass : UInt32) (name : String) : Outcome String Unit → StageEntry
  | .ok () => ⟨.postProcess, .success, pass, name⟩
  | .failed error => ⟨.postProcess, .degraded, pass, name ++ ": " ++ error⟩
  | .timedOut => ⟨.postProcess, .degraded, pass, name ++ ": timed out"⟩
  | .panicked => ⟨.postProcess, .degraded, pass, name ++ ": panicked"⟩

/-- Runs the remaining post-processors, the first of which is at a place. -/
def runProcessors : (place : Nat) → List String → Progress → Plan Progress
  | _, [], progress => .done progress
  | place, name :: rest, progress => do
      let outcome ← Plan.request (.postProcess place progress.store progress.evaluation)
      runProcessors (place + 1) rest (progress.record [postEntry progress.passes name outcome])

/-- Shows the result to all post-processors. -/
def postProcess (setup : Setup) (progress : Progress) : Plan Progress := do
  if setup.postProcessors.isEmpty then return progress
  else
    enter .postProcessing progress
    runProcessors 0 setup.postProcessors progress

/-- Completes a survey whose result is accepted, unless cancellation has been demanded. -/
def finish (setup : Setup) (progress : Progress) : Plan Progress := do
  if ← Plan.cancelled then abandon progress Failure.cancelled.message
  else
    enter .accepted progress
    let progress ← postProcess setup progress
    let progress := progress.complete
    enter .done progress
    return progress

/-! ## The survey -/

/-- Makes passes until one is not to be followed by another, at most so many more after the first
one, and completes the survey. -/
def passes (setup : Setup) (snapshot : Snapshot) : (more : Nat) → Progress → Plan Progress
  | more, progress => do
      match ← pass setup snapshot progress with
      | .abandoned progress => return progress
      | .accepted progress => finish setup progress
      | .again progress =>
          match more with
          | 0 => finish setup progress
          | more + 1 => passes setup snapshot more progress

/-- How many retries a run has left. -/
def retriesLeft (run : Run) : Nat := run.maxRetries.toNat - run.retryCount.toNat

/-- The survey of a snapshot. -/
def drive (setup : Setup) (snapshot : Snapshot) (progress : Progress) : Plan Progress :=
  passes setup snapshot (retriesLeft progress.run) progress

/-- Carries out a survey of a snapshot that has been taken already. -/
def executeSnapshot (setup : Setup) (snapshot : Snapshot) (run : Run) : Plan Progress :=
  drive setup snapshot (.start run)

/-- Makes the repository available and takes its snapshot. -/
def ingest (setup : Setup) (repo : RepoRef) (run : Run) : Plan (Except Failure Snapshot) := do
  match ← Plan.request (.materialize repo run.id) with
  | .ok root =>
      let tree ← Plan.request (.tree root)
      return Ingest.snapshot setup.settings.scan root tree
  | .failed error => return .error error
  | .timedOut => return .error (.timeout ("acquiring " ++ repo.text))
  | .panicked => .crash

/-- Carries out a survey of a repository. -/
def execute (setup : Setup) (repo : RepoRef) (run : Run) : Plan Progress := do
  let progress := Progress.start run
  if ← Plan.cancelled then abandon progress Failure.cancelled.message
  else
    enter .ingesting progress
    match ← ingest setup repo progress.run with
    | .error error => abandon progress ("repository acquisition failed: " ++ error.message)
    | .ok snapshot =>
        drive setup snapshot (progress.record
          [⟨.ingest, .success, 0, snapshot.files.length.repr ++ " files"⟩])

end Survey
end CodeSurvey
