import CodeSurvey.Service.Registry
import CodeSurvey.Settings.Check
import CodeSurvey.Settings.Overrides
import CodeSurvey.Survey.Execution

/-!
# The service

A service starts runs and answers pollers while the runs go on concurrently.  Every run is a task:
the rest of its plan, and whether its cancellation has been demanded.  The tasks take steps in any
order, and between any two steps of a run others may go on and the caller may use the service.

## Main definitions

* `Service.start`, `Service.cancel`, `Service.remove`, `Service.forget`, `Service.evict`: what a
  caller does.
* `Service.step`: one step of a run.
* `Service.Event`, `Service.after`: histories of a service.
-/

namespace CodeSurvey

/-- The rest of a run. -/
structure Task where
  cancelled : Bool
  plan : Plan Progress

/-- Someone who answers requests at one moment. -/
abbrev Replies := (request : Request) → request.Answer

/-- Why a run is not started: the settings are wrong, or there is nobody to carry it out. -/
inductive StartError where
  | invalid (violation : InvalidSetting)
  | noRuntime

/-- The failure that a caller sees. -/
def StartError.failure : StartError → Failure
  | .invalid violation => .configuration (SettingsError.invalid violation).message
  | .noRuntime => .invalidOperation "no Tokio runtime to run on"

/-- A service: the setup of its runs, the reports on them, and what is left of them. -/
structure Service where
  setup : Setup
  registry : Registry
  tasks : OrderedMap RunId Task

namespace Service

/-- The service without runs. -/
def new (setup : Setup) : Service := ⟨setup, .empty, .empty⟩

/-! ## What a caller does -/

/-- The setup of a run with adjustments. -/
def setupFor (service : Service) (overrides : Overrides) : Setup :=
  { service.setup with settings := overrides.apply service.setup.settings }

/-- The service with a run registered. -/
def register (service : Service) (setup : Setup) (id : RunId) (repo : RepoRef) (now : Int) :
    Service :=
  let run := Run.new id setup.settings.policy.maxRetries
  { service with
    registry := service.registry.insert id (.pending run repo now)
    tasks := service.tasks.insert id ⟨false, Survey.execute setup repo run⟩ }

/-- Starts a run with a fresh identity.  It needs valid settings and a runtime to carry it out. -/
def start (service : Service) (id : RunId) (repo : RepoRef) (overrides : Overrides)
    (hasRuntime : Bool) (now : Int) : Except StartError Service :=
  let setup := service.setupFor overrides
  match setup.settings.check with
  | some violation => .error (.invalid violation)
  | none => if hasRuntime then .ok (service.register setup id repo now) else .error .noRuntime

/-- The report on a run. -/
def status (service : Service) (id : RunId) : Option Report := service.registry.get? id

/-- Demands the cancellation of a run.  It is granted while the run is live. -/
def cancel (service : Service) (id : RunId) : Bool × Service :=
  if service.registry.isLive id then
    (true, { service with
      tasks := service.tasks.modify id fun task => { task with cancelled := true } })
  else (false, service)

/-- Takes a run off the registry whether it has finished or not. -/
def forget (service : Service) (id : RunId) : Service :=
  { service with registry := service.registry.erase id }

/-- Takes a finished run off the registry and hands its report out. -/
def remove (service : Service) (id : RunId) : Except Failure (Report × Service) :=
  (service.registry.final id).map fun report => (report, service.forget id)

/-- Takes the runs off the registry that finished at a time or before. -/
def evict (service : Service) (cutoff : Int) : Service :=
  { service with registry := service.registry.evict cutoff }

/-! ## What runs do -/

/-- Whether the cancellation of a run has been demanded. -/
def isCancelled (service : Service) (id : RunId) : Bool :=
  match service.tasks.get? id with
  | some task => task.cancelled
  | none => false

/-- What is left of a run. -/
def plan? (service : Service) (id : RunId) : Option (Plan Progress) :=
  (service.tasks.get? id).map (·.plan)

/-- The service with a run at another place of its plan. -/
def goOn (service : Service) (id : RunId) (task : Task) (plan : Plan Progress) : Service :=
  { service with tasks := service.tasks.insert id { task with plan := plan } }

/-- The service after the task of a run has ended. -/
def drop (service : Service) (id : RunId) : Service :=
  { service with tasks := service.tasks.erase id }

/-- The service with the report on a run changed, if it is still registered. -/
def report (service : Service) (id : RunId) (change : Report → Report) : Service :=
  { service with registry := service.registry.modify id change }

/-- One step of a run.  A run that has ended takes none. -/
def step (service : Service) (id : RunId) (replies : Replies) (now : Int) : Service :=
  match service.tasks.get? id with
  | none => service
  | some task =>
      match task.plan with
      | .done outcome => (service.report id (·.finish outcome now)).drop id
      | .crash => service.drop id
      | .poll next => service.goOn id task (next task.cancelled)
      | .ask request next =>
          (service.report id (·.observe request now)).goOn id task (next (replies request))

/-! ## One run at a time -/

@[simp]
theorem status_goOn (service : Service) (id other : RunId) (task : Task) (plan : Plan Progress) :
    (service.goOn id task plan).status other = service.status other :=
  rfl

@[simp]
theorem status_drop (service : Service) (id other : RunId) :
    (service.drop id).status other = service.status other :=
  rfl

theorem status_report_of_ne (service : Service) {id other : RunId} (h : other ≠ id)
    (change : Report → Report) :
    (service.report id change).status other = service.status other :=
  OrderedMap.get?_modify_of_ne service.registry h change

/-- A step of a run leaves the reports on all others alone. -/
theorem status_step_of_ne (service : Service) {id other : RunId} (h : other ≠ id)
    (replies : Replies) (now : Int) :
    (service.step id replies now).status other = service.status other := by
  unfold step
  cases service.tasks.get? id with
  | none => rfl
  | some task =>
      cases hplan : task.plan with
      | done outcome => simpa [hplan] using status_report_of_ne service h _
      | crash => simp [hplan]
      | poll next => simp [hplan]
      | ask request next => simpa [hplan] using status_report_of_ne service h _

/-! ## Histories -/

/-- What happens to a service. -/
inductive Event where
  | start (id : RunId) (repo : RepoRef) (overrides : Overrides) (hasRuntime : Bool)
  | cancel (id : RunId)
  | remove (id : RunId)
  | forget (id : RunId)
  | evict (cutoff : Int)
  | step (id : RunId) (replies : Replies)

/-- The service after an event at a time.  A start with a used identity does nothing, since
identities are fresh. -/
def handle (service : Service) (now : Int) : Event → Service
  | .start id repo overrides hasRuntime =>
      if service.registry.contains id || service.tasks.contains id then service
      else
        match service.start id repo overrides hasRuntime now with
        | .ok service => service
        | .error _ => service
  | .cancel id => (service.cancel id).2
  | .remove id =>
      match service.remove id with
      | .ok (_, service) => service
      | .error _ => service
  | .forget id => service.forget id
  | .evict cutoff => service.evict cutoff
  | .step id replies => service.step id replies now

/-- The service after a history of events with their times. -/
def after (service : Service) (history : List (Int × Event)) : Service :=
  history.foldl (fun service event => service.handle event.1 event.2) service

@[simp]
theorem after_nil (service : Service) : service.after [] = service :=
  rfl

@[simp]
theorem after_append (service : Service) (first second : List (Int × Event)) :
    service.after (first ++ second) = (service.after first).after second :=
  List.foldl_append

end Service

end CodeSurvey
