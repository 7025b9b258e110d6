import CodeSurvey.Survey.Progress
import CodeSurvey.Capability.Request

/-!
# Reports on runs

A report is what a poller sees of a run.  It follows the phases and evaluations that the run tells
its observer of, except for terminal phases: they are published only together with the outcome, so
that a report never names a terminal phase without what belongs to it.

## Main definitions

* `Report.observe`: the report after a request of the run.
* `Report.finish`: the report after the outcome has been published.
-/

namespace CodeSurvey

/-- What a poller sees of a run. -/
structure Report where
  repo : String
  status : RunStatus
  phase : Phase
  progress : Nat
  retryCount : UInt32
  maxRetries : UInt32
  aggregate : Option Float32
  store : Option Store
  error : Option String
  updatedAt : Int

namespace Report

/-- The report on a run that has been registered. -/
def pending (run : Run) (repo : RepoRef) (now : Int) : Report where
  repo := repo.text
  status := .pending
  phase := .pending
  progress := 0
  retryCount := 0
  maxRetries := run.maxRetries
  aggregate := none
  store := none
  error := none
  updatedAt := now

/-- The report after the run has entered a phase. -/
def enter (report : Report) (phase : Phase) (run : Run) (now : Int) : Report :=
  if phase.isTerminal then report
  else
    { report with
      phase := phase
      progress := phase.progress
      status := run.status
      retryCount := run.retryCount
      updatedAt := now }

/-- The report after an evaluation. -/
def evaluated (report : Report) (evaluation : Evaluation) (now : Int) : Report :=
  { report with aggregate := some evaluation.aggregate, updatedAt := now }

/-- The report after a request of the run.  Only those to an observer matter. -/
def observe (report : Report) (request : Request) (now : Int) : Report :=
  match request with
  | .phase phase run => report.enter phase run now
  | .evaluated evaluation => report.evaluated evaluation now
  | _ => report

/-- The terminal phase that belongs to a status. -/
def terminalPhase : RunStatus → Phase
  | .completed => .done
  | _ => .failed

/-- The report after the outcome of the run has been published. -/
def finish (report : Report) (outcome : Progress) (now : Int) : Report :=
  { report with
    status := outcome.run.status
    retryCount := outcome.run.retryCount
    phase := terminalPhase outcome.run.status
    progress := 100
    aggregate := outcome.evaluation.map (·.aggregate)
    error := outcome.error
    store := if outcome.run.status = .completed then some outcome.store else report.store
    updatedAt := now }

/-- Whether the report never changes again. -/
def isFinished (report : Report) : Bool := report.phase.isTerminal

@[simp]
theorem finish_phase (report : Report) (outcome : Progress) (now : Int) :
    (report.finish outcome now).phase = terminalPhase outcome.run.status :=
  rfl

theorem terminalPhase_isTerminal (status : RunStatus) : (terminalPhase status).isTerminal := by
  cases status <;> rfl

theorem finish_isFinished (report : Report) (outcome : Progress) (now : Int) :
    (report.finish outcome now).isFinished :=
  terminalPhase_isTerminal outcome.run.status

theorem enter_of_isTerminal (report : Report) {phase : Phase} (run : Run) (now : Int)
    (h : phase.isTerminal) : report.enter phase run now = report := by
  simp [enter, h]

end Report

end CodeSurvey
