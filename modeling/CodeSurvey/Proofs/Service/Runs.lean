import CodeSurvey.Proofs.OrderedMap
import CodeSurvey.Service.Basic

/-!
# One run of a service

A service knows of each run its report and what is left of its plan.  The events of a history change
these for one run at a time, so a run can be followed alone whatever the other runs do.  This file
says once what an event can do to a run.

## Main results

* `Service.Change`, `Service.change_handle`: all that an event can do to a run.
* `Service.view_step`: a step of a run is a step of its view.
* `Service.after_induction`: what every change to a run keeps is kept by every history.
-/

namespace CodeSurvey

/-- The task with its cancellation demanded. -/
def Task.cancel (task : Task) : Task := { task with cancelled := true }

namespace Service

/-- What a service knows of a run: its report, and what is left of it. -/
@[ext]
structure View where
  report : Option Report
  task : Option Task

/-- What a service knows of a run. -/
def view (service : Service) (id : RunId) : View := ⟨service.status id, service.tasks.get? id⟩

@[simp]
theorem view_report (service : Service) (id : RunId) :
    (service.view id).report = service.status id :=
  rfl

@[simp]
theorem view_task (service : Service) (id : RunId) :
    (service.view id).task = service.tasks.get? id :=
  rfl

/-! ## What an event does to a run -/

/-- All that an event can do to a run. -/
inductive Change (setup : Setup) (id : RunId) (now : Int) : View → Event → View → Prop where
  | untouched {view : View} {event : Event}
      (hidle : view.task = none ∨ ∀ replies, event ≠ .step id replies) :
      Change setup id now view event view
  | started {repo : RepoRef} {overrides : Overrides} {adjusted : Setup} {run : Run}
      (hadjusted : adjusted = { setup with settings := overrides.apply setup.settings })
      (hvalid : adjusted.settings.check = none)
      (hrun : run = .new id adjusted.settings.policy.maxRetries) :
      Change setup id now ⟨none, none⟩ (.start id repo overrides true)
        ⟨some (.pending run repo now), some ⟨false, Survey.execute adjusted repo run⟩⟩
  | cancelled {report : Report} {task : Option Task} (hlive : report.isFinished = false) :
      Change setup id now ⟨some report, task⟩ (.cancel id) ⟨some report, task.map Task.cancel⟩
  | removed {report : Report} {task : Option Task} {event : Event}
      (hevent : event = .remove id ∨ ∃ cutoff, event = .evict cutoff)
      (hfinished : report.isFinished = true) :
      Change setup id now ⟨some report, task⟩ event ⟨none, task⟩
  | forgotten {view : View} : Change setup id now view (.forget id) ⟨none, view.task⟩
  | published {report : Option Report} {cancelled : Bool} {outcome : Progress}
      {replies : Replies} :
      Change setup id now ⟨report, some ⟨cancelled, .done outcome⟩⟩ (.step id replies)
        ⟨report.map (·.finish outcome now), none⟩
  | crashed {report : Option Report} {cancelled : Bool} {replies : Replies} :
      Change setup id now ⟨report, some ⟨cancelled, .crash⟩⟩ (.step id replies) ⟨report, none⟩
  | looked {report : Option Report} {cancelled : Bool} {next : Bool → Plan Progress}
      {replies : Replies} :
      Change setup id now ⟨report, some ⟨cancelled, .poll next⟩⟩ (.step id replies)
        ⟨report, some ⟨cancelled, next cancelled⟩⟩
  | answered {report : Option Report} {cancelled : Bool} {request : Request}
      {next : request.Answer → Plan Progress} {replies : Replies} :
      Change setup id now ⟨report, some ⟨cancelled, .ask request next⟩⟩ (.step id replies)
        ⟨report.map (·.observe request now), some ⟨cancelled, next (replies request)⟩⟩

section Events

variable {service : Service} {id other : RunId} {now : Int}

/-- A run is live if it is registered and not finished. -/
theorem isLive_iff {registry : Registry} :
    registry.isLive id = true ↔
      ∃ report, OrderedMap.get? registry id = some report ∧ report.isFinished = false := by
  unfold Registry.isLive
  cases OrderedMap.get? registry id <;> simp

/-- A final report is that of a registered run which is finished. -/
theorem final_eq_ok {registry : Registry} {report : Report} (h : registry.final id = .ok report) :
    OrderedMap.get? registry id = some report ∧ report.isFinished = true := by
  unfold Registry.final at h
  cases hreport : OrderedMap.get? registry id with
  | none => simp [hreport] at h
  | some found =>
      cases hfinished : found.isFinished with
      | false => simp [hreport, hfinished] at h
      | true =>
          simp only [hreport, hfinished, if_true, Except.ok.injEq] at h
          subst h
          exact ⟨rfl, hfinished⟩

/-- The view of a run off the registry. -/
theorem view_forget (service : Service) (id other : RunId) :
    (service.forget other).view id =
      ⟨if id = other then none else service.status id, service.tasks.get? id⟩ := by
  rw [view, status, forget, OrderedMap.get?_erase]
  rfl

/-- A start that succeeds registers the run. -/
theorem start_eq_ok {service started : Service} {id : RunId} {repo : RepoRef}
    {overrides : Overrides} {hasRuntime : Bool} {now : Int}
    (h : service.start id repo overrides hasRuntime now = .ok started) :
    (service.setupFor overrides).settings.check = none ∧ hasRuntime = true ∧
      started = service.register (service.setupFor overrides) id repo now := by
  rw [start] at h
  split at h
  · cases h
  rename_i hvalid
  cases hasRuntime with
  | false => cases h
  | true => exact ⟨hvalid, rfl, (Except.ok.inj h).symm⟩

/-- A run that is registered waits to be carried out. -/
theorem view_register (service : Service) (setup : Setup) (id : RunId) (repo : RepoRef)
    (now : Int) :
    (service.register setup id repo now).view id =
      ⟨some (.pending (.new id setup.settings.policy.maxRetries) repo now),
        some ⟨false, Survey.execute setup repo (.new id setup.settings.policy.maxRetries)⟩⟩ := by
  simp [view, status, register]

/-- Registering a run leaves all others alone. -/
theorem view_register_of_ne (service : Service) (setup : Setup) (h : id ≠ other) (repo : RepoRef)
    (now : Int) : (service.register setup other repo now).view id = service.view id := by
  simp [view, status, register, OrderedMap.get?_insert_of_ne _ h]

/-- A start is a change of the started run alone, if it succeeds. -/
theorem change_start (repo : RepoRef) (overrides : Overrides) (hasRuntime : Bool) :
    Change service.setup id now (service.view id) (.start other repo overrides hasRuntime)
      ((service.handle now (.start other repo overrides hasRuntime)).view id) := by
  have hstep : ∀ replies, Event.start other repo overrides hasRuntime ≠ .step id replies := by
    rintro replies ⟨⟩
  rw [handle]
  split
  · exact .untouched (.inr hstep)
  rename_i hfresh
  cases hstart : service.start other repo overrides hasRuntime now with
  | error error => exact .untouched (.inr hstep)
  | ok started =>
      obtain ⟨hvalid, rfl, rfl⟩ := start_eq_ok hstart
      by_cases hid : id = other
      · subst hid
        have hbefore : service.view id = ⟨none, none⟩ := by
          simpa [OrderedMap.contains, View.ext_iff, status] using hfresh
        rw [hbefore]
        simp only [view_register]
        exact .started rfl hvalid rfl
      · simp only [view_register_of_ne _ _ hid]
        exact .untouched (.inr hstep)

/-- A cancellation is a change of a live run alone, and does no more than demand it. -/
theorem change_cancel :
    Change service.setup id now (service.view id) (.cancel other)
      ((service.handle now (.cancel other)).view id) := by
  rw [handle, cancel]
  cases hlive : service.registry.isLive other with
  | false => exact .untouched (.inr nofun)
  | true =>
      by_cases hid : id = other
      · subst hid
        obtain ⟨report, hreport, hopen⟩ := isLive_iff.1 hlive
        have hbefore : service.view id = ⟨some report, service.tasks.get? id⟩ := by
          rw [view, status, hreport]
        have hafter : ({ service with
            tasks := service.tasks.modify id fun task => { task with cancelled := true } } :
              Service).view id = ⟨some report, (service.tasks.get? id).map Task.cancel⟩ := by
          simp only [view, status, hreport, OrderedMap.get?_modify_self]
          rfl
        rw [hbefore]
        simp only [if_true, hafter]
        exact .cancelled hopen
      · have hsame : ({ service with
            tasks := service.tasks.modify other fun task => { task with cancelled := true } } :
              Service).view id = service.view id := by
          simp [view, status, OrderedMap.get?_modify_of_ne _ hid]
        simp only [if_true, hsame]
        exact .untouched (.inr nofun)

/-- A removal is a change of a finished run alone. -/
theorem change_remove :
    Change service.setup id now (service.view id) (.remove other)
      ((service.handle now (.remove other)).view id) := by
  rw [handle, remove]
  cases hfinal : service.registry.final other with
  | error failure => exact .untouched (.inr nofun)
  | ok report =>
      obtain ⟨hreport, hfinished⟩ := final_eq_ok hfinal
      simp only [Except.map, view_forget]
      by_cases hid : id = other
      · subst hid
        have hbefore : service.view id = ⟨some report, service.tasks.get? id⟩ := by
          rw [view, status, hreport]
        rw [hbefore, if_pos rfl]
        exact .removed (.inl rfl) hfinished
      · rw [if_neg hid]
        exact .untouched (.inr nofun)

/-- Forgetting is a change of the forgotten run alone. -/
theorem change_forget :
    Change service.setup id now (service.view id) (.forget other)
      ((service.handle now (.forget other)).view id) := by
  rw [handle, view_forget]
  by_cases hid : id = other
  · subst hid
    rw [if_pos rfl]
    exact .forgotten
  · rw [if_neg hid]
    exact .untouched (.inr nofun)

/-- An eviction is a change of finished runs alone. -/
theorem change_evict (cutoff : Int) :
    Change service.setup id now (service.view id) (.evict cutoff)
      ((service.handle now (.evict cutoff)).view id) := by
  have hafter : (service.handle now (.evict cutoff)).view id =
      ⟨(service.status id).filter fun report => !Registry.isStale cutoff report,
        service.tasks.get? id⟩ := by
    simp [handle, evict, view, status, Registry.evict, OrderedMap.get?_filter]
  rw [hafter, view]
  cases hreport : service.status id with
  | none => exact .untouched (.inr nofun)
  | some report =>
      cases hstale : Registry.isStale cutoff report with
      | false =>
          simp only [Option.filter_some, hstale, Bool.not_false, if_true]
          exact .untouched (.inr nofun)
      | true =>
          simp only [Option.filter_some, hstale, Bool.not_true]
          refine .removed (.inr ⟨cutoff, rfl⟩) ?_
          exact ((Bool.and_eq_true ..).mp hstale).1

/-- A step of a run. -/
def View.step (view : View) (replies : Replies) (now : Int) : View :=
  match view.task with
  | none => view
  | some task =>
      match task.plan with
      | .done outcome => ⟨view.report.map (·.finish outcome now), none⟩
      | .crash => ⟨view.report, none⟩
      | .poll next => ⟨view.report, some { task with plan := next task.cancelled }⟩
      | .ask request next =>
          ⟨view.report.map (·.observe request now),
            some { task with plan := next (replies request) }⟩

/-- What becomes of a run in its step depends on what is known of this run alone. -/
theorem view_step (service : Service) (id : RunId) (replies : Replies) (now : Int) :
    (service.step id replies now).view id = (service.view id).step replies now := by
  unfold step View.step
  cases htask : service.tasks.get? id with
  | none => simp [htask]
  | some task =>
      cases hplan : task.plan with
      | done outcome => simp [htask, hplan, view, status, drop, report]
      | crash => simp [htask, hplan, view, status, drop]
      | poll next => simp [htask, hplan, view, status, goOn]
      | ask request next => simp [htask, hplan, view, status, goOn, report]

/-- A step of a run leaves all others alone. -/
theorem view_step_of_ne (service : Service) (h : id ≠ other) (replies : Replies) (now : Int) :
    (service.step other replies now).view id = service.view id := by
  have htask : (service.step other replies now).tasks.get? id = service.tasks.get? id := by
    unfold step
    cases service.tasks.get? other with
    | none => rfl
    | some task =>
        cases hplan : task.plan <;>
          simp [hplan, goOn, drop, report, OrderedMap.get?_erase_of_ne _ h,
            OrderedMap.get?_insert_of_ne _ h]
  rw [view, status_step_of_ne service h, htask]
  rfl

/-- A step is a change of the run that takes it. -/
theorem change_step (replies : Replies) :
    Change service.setup id now (service.view id) (.step other replies)
      ((service.handle now (.step other replies)).view id) := by
  rw [handle]
  by_cases hid : id = other
  · subst hid
    rw [view_step]
    unfold View.step
    obtain ⟨report, task⟩ := service.view id
    cases task with
    | none => exact .untouched (.inl rfl)
    | some task =>
        obtain ⟨cancelled, plan⟩ := task
        cases plan with
        | done outcome => exact .published
        | crash => exact .crashed
        | poll next => exact .looked
        | ask request next => exact .answered
  · rw [view_step_of_ne service hid]
    refine .untouched (.inr ?_)
    rintro _ ⟨⟩
    exact hid rfl

/-- Whatever happens to a service, it does nothing else to a run. -/
theorem change_handle (service : Service) (id : RunId) (now : Int) (event : Event) :
    Change service.setup id now (service.view id) event ((service.handle now event).view id) := by
  cases event with
  | start other repo overrides hasRuntime => exact change_start repo overrides hasRuntime
  | cancel other => exact change_cancel
  | remove other => exact change_remove
  | forget other => exact change_forget
  | evict cutoff => exact change_evict cutoff
  | step other replies => exact change_step replies

end Events

/-! ## Histories -/

/-- No event changes the setup of a service. -/
@[simp]
theorem setup_handle (service : Service) (now : Int) (event : Event) :
    (service.handle now event).setup = service.setup := by
  cases event with
  | start id repo overrides hasRuntime =>
      rw [handle]
      split
      · rfl
      · rw [start]
        cases (service.setupFor overrides).settings.check <;> cases hasRuntime <;> rfl
  | cancel id =>
      rw [handle, cancel]
      split <;> rfl
  | remove id =>
      rw [handle, remove]
      cases service.registry.final id <;> rfl
  | forget id => rfl
  | evict cutoff => rfl
  | step id replies =>
      rw [handle, step]
      cases service.tasks.get? id with
      | none => rfl
      | some task => cases hplan : task.plan <;> simp [hplan, goOn, drop, report]

/-- What every change to a run keeps is kept by every history. -/
theorem after_induction {service : Service} {id : RunId} {holds : View → Prop}
    (history : List (Int × Event))
    (hkeep : ∀ now event before after, Change service.setup id now before event after →
      holds before → holds after)
    (hstart : holds (service.view id)) : holds ((service.after history).view id) := by
  induction history generalizing service with
  | nil => exact hstart
  | cons entry rest ih =>
      refine ih ?_ (hkeep _ _ _ _ (change_handle service id entry.1 entry.2) hstart)
      rw [setup_handle]
      exact hkeep

/-- Whether a run is registered at every moment of a history. -/
def Stays (service : Service) (id : RunId) (history : List (Int × Event)) : Prop :=
  ∀ first, first <+: history → ((service.after first).status id).isSome = true

/-- A run that stays is registered at the beginning. -/
theorem Stays.isSome {service : Service} {id : RunId} {history : List (Int × Event)}
    (h : service.Stays id history) : (service.status id).isSome = true :=
  h [] (List.nil_prefix ..)

/-- A run that stays in a history stays in what is left of it after the first event. -/
theorem Stays.tail {service : Service} {id : RunId} {entry : Int × Event}
    {history : List (Int × Event)} (h : service.Stays id (entry :: history)) :
    (service.handle entry.1 entry.2).Stays id history := by
  intro first hfirst
  exact h (entry :: first) (List.cons_prefix_cons.2 ⟨rfl, hfirst⟩)

/-- A registered run stays while nothing happens. -/
theorem stays_nil {service : Service} {id : RunId} (h : (service.status id).isSome = true) :
    service.Stays id [] := by
  intro first hfirst
  rw [List.prefix_nil.1 hfirst]
  exact h

/-- A registered run stays if it does so from the next moment on. -/
theorem Stays.cons {service : Service} {id : RunId} {entry : Int × Event}
    {history : List (Int × Event)} (h : (service.status id).isSome = true)
    (htail : (service.handle entry.1 entry.2).Stays id history) :
    service.Stays id (entry :: history) := by
  intro first hfirst
  cases first with
  | nil => exact h
  | cons other rest =>
      obtain ⟨rfl, hrest⟩ := List.cons_prefix_cons.1 hfirst
      exact htail rest hrest

/-- What every change to a registered run keeps is kept while the run stays registered. -/
theorem Stays.induction {service : Service} {id : RunId} {history : List (Int × Event)}
    (hstays : service.Stays id history) (holds : View → Prop)
    (hkeep : ∀ now event before after, Change service.setup id now before event after →
      before.report.isSome = true → after.report.isSome = true → holds before → holds after)
    (hstart : holds (service.view id)) : holds ((service.after history).view id) := by
  induction history generalizing service with
  | nil => exact hstart
  | cons entry rest ih =>
      have hchange := change_handle service id entry.1 entry.2
      refine ih hstays.tail ?_ (hkeep _ _ _ _ hchange hstays.isSome hstays.tail.isSome hstart)
      rw [setup_handle]
      exact hkeep

end Service
end CodeSurvey
