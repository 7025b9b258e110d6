import CodeSurvey.OrderedMap
import CodeSurvey.Service.Report

/-!
# The registry of runs

The registry holds the reports on live and on finished runs.  Finished ones stay until they are
removed or evicted.
-/

namespace CodeSurvey

/-- The reports on runs. -/
abbrev Registry := OrderedMap RunId Report

namespace Registry

/-- The registry without runs. -/
def empty : Registry := OrderedMap.empty

/-- Whether a run is registered and has not finished. -/
def isLive (registry : Registry) (id : RunId) : Bool :=
  match OrderedMap.get? registry id with
  | some report => !report.isFinished
  | none => false

/-- The final report on a run, or why it cannot be handed out: the run is unknown or still live. -/
def final (registry : Registry) (id : RunId) : Except Failure Report :=
  match OrderedMap.get? registry id with
  | none => .error (.runNotFound id.text)
  | some report =>
      if report.isFinished then .ok report
      else .error (.invalidOperation ("run " ++ id.text ++ " is still " ++ report.phase.name))

/-- Whether a report is on a run that finished at a time or before. -/
def isStale (cutoff : Int) (report : Report) : Bool :=
  report.isFinished && decide (report.updatedAt ≤ cutoff)

/-- The registry without the runs that finished at a time or before. -/
def evict (registry : Registry) (cutoff : Int) : Registry :=
  OrderedMap.filter (fun _ report => !isStale cutoff report) registry

end Registry

end CodeSurvey
