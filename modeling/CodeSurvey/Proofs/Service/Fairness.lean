import CodeSurvey.Proofs.Service.Reports

/-!
# Runs come to an end

The plan of a run is a finite tree, and each step of the run goes down one level of it.  So a run
that is not kept from taking steps comes to the end of its plan, however its steps are mixed with
those of other runs and with what callers do.  There its outcome is published, unless a panic has
escaped.

## Main results

* `Service.Future.Regular`: endless histories in which a run keeps taking steps.
* `Service.exists_task_eq_none`: a run comes to the end of its plan.
* `Service.exists_finished`, `Service.not_finished_of_escapes`: its report becomes final, unless a
  panic escapes from one of its steps.
-/

namespace CodeSurvey

open Survey (Standing)

namespace Service

/-! ## Endless histories -/

/-- An endless history: the events at all moments, with their times. -/
abbrev Future := Nat → Int × Event

/-- What happens before a moment. -/
def Future.before (future : Future) (moment : Nat) : List (Int × Event) :=
  (List.range moment).map future

/-- Whether a run goes on in a future: it always takes another step some time, nobody takes it off
the registry before it has finished, and its identity is not used again. -/
structure Future.Regular (future : Future) (id : RunId) : Prop where
  fair : ∀ moment, ∃ next, moment ≤ next ∧ ∃ replies, (future next).2 = .step id replies
  kept : ∀ moment, (future moment).2 ≠ .forget id
  fresh : ∀ moment repo overrides hasRuntime,
    (future moment).2 ≠ .start id repo overrides hasRuntime

/-- Whether a panic escapes from a run in an event. -/
def Escapes (service : Service) (id : RunId) (event : Event) : Prop :=
  ∃ replies met, event = .step id replies ∧ (service.view id).met? replies = some met ∧
    met.escapes = true

section Futures

variable {service : Service} {future : Future} {id : RunId} {moment : Nat}

theorem before_succ (future : Future) (moment : Nat) :
    future.before (moment + 1) = future.before moment ++ [future moment] := by
  simp [Future.before, List.range_succ]

theorem after_before_succ (service : Service) (future : Future) (moment : Nat) :
    service.after (future.before (moment + 1)) =
      (service.after (future.before moment)).handle (future moment).1 (future moment).2 := by
  rw [before_succ, after_append]
  rfl

/-- From one moment to the next a run changes by the event in between. -/
theorem change_succ (service : Service) (future : Future) (id : RunId) (moment : Nat) :
    Change (service.after (future.before moment)).setup id (future moment).1
      ((service.after (future.before moment)).view id) (future moment).2
      ((service.after (future.before (moment + 1))).view id) := by
  rw [after_before_succ]
  exact change_handle ..

/-! ## The end of the plan -/

/-- Without a step of its own a run stays where it is in its plan. -/
theorem Change.exists_task {setup : Setup} {now : Int} {before after : View} {event : Event}
    (hchange : Change setup id now before event after) (hidle : ∀ replies, event ≠ .step id replies)
    {task : Task} (htask : before.task = some task) :
    ∃ demanded, after.task = some ⟨demanded, task.plan⟩ := by
  cases hchange with
  | untouched | removed | forgotten => exact ⟨task.cancelled, htask⟩
  | started => cases htask
  | cancelled =>
      cases htask
      exact ⟨true, rfl⟩
  | published | crashed | looked | answered => exact absurd rfl (hidle _)

/-- A run that keeps taking steps takes one where it is in its plan. -/
theorem exists_step
    (hfair : ∀ moment, ∃ next, moment ≤ next ∧ ∃ replies, (future next).2 = .step id replies)
    {task : Task} (htask : ((service.after (future.before moment)).view id).task = some task) :
    ∃ next cancelled replies, (future next).2 = .step id replies ∧
      ((service.after (future.before next)).view id).task = some ⟨cancelled, task.plan⟩ := by
  obtain ⟨next, hle, hnext⟩ := hfair moment
  obtain ⟨gap, rfl⟩ := Nat.exists_eq_add_of_le hle
  clear hle
  induction gap generalizing moment task with
  | zero =>
      obtain ⟨replies, hreplies⟩ := hnext
      exact ⟨moment, task.cancelled, replies, hreplies, htask⟩
  | succ gap ih =>
      by_cases hstep : ∃ replies, (future moment).2 = .step id replies
      · obtain ⟨replies, hreplies⟩ := hstep
        exact ⟨moment, task.cancelled, replies, hreplies, htask⟩
      · obtain ⟨demanded, hstays⟩ := (change_succ service future id moment).exists_task
          (fun replies hreplies => hstep ⟨replies, hreplies⟩) htask
        have hlater : ∃ replies, (future (moment + 1 + gap)).2 = .step id replies := by
          rwa [Nat.add_assoc, Nat.add_comm 1 gap]
        have hnext := ih hstays hlater
        exact hnext

/-- A run that keeps taking steps comes to the end of its plan.  The induction is on what is left of
the plan. -/
theorem exists_task_eq_none
    (hfair : ∀ moment, ∃ next, moment ≤ next ∧ ∃ replies, (future next).2 = .step id replies)
    (service : Service) :
    ∃ moment, ((service.after (future.before moment)).view id).task = none := by
  suffices hplan : ∀ plan moment cancelled,
      ((service.after (future.before moment)).view id).task = some ⟨cancelled, plan⟩ →
        ∃ later, ((service.after (future.before later)).view id).task = none by
    cases htask : (service.view id).task with
    | none => exact ⟨0, htask⟩
    | some task => exact hplan task.plan 0 task.cancelled htask
  intro plan
  induction plan with
  | done outcome =>
      intro moment cancelled htask
      obtain ⟨next, _, replies, hstep, hnext⟩ := exists_step hfair htask
      refine ⟨next + 1, ?_⟩
      rw [after_before_succ, hstep, handle, view_step, View.step, hnext]
  | crash =>
      intro moment cancelled htask
      obtain ⟨next, _, replies, hstep, hnext⟩ := exists_step hfair htask
      refine ⟨next + 1, ?_⟩
      rw [after_before_succ, hstep, handle, view_step, View.step, hnext]
  | poll rest ih =>
      intro moment cancelled htask
      obtain ⟨next, demanded, replies, hstep, hnext⟩ := exists_step hfair htask
      refine ih demanded (next + 1) demanded ?_
      rw [after_before_succ, hstep, handle, view_step, View.step, hnext]
  | ask request rest ih =>
      intro moment cancelled htask
      obtain ⟨next, demanded, replies, hstep, hnext⟩ := exists_step hfair htask
      refine ih (replies request) (next + 1) demanded ?_
      rw [after_before_succ, hstep, handle, view_step, View.step, hnext]

/-! ## The final report -/

/-- A run that stays registered until an event and in it stays registered. -/
theorem Stays.succ (hstays : service.Stays id (future.before moment))
    (h : ((service.after (future.before (moment + 1))).status id).isSome = true) :
    service.Stays id (future.before (moment + 1)) := by
  intro first hfirst
  rw [before_succ, List.prefix_concat_iff] at hfirst
  rcases hfirst with rfl | hfirst
  · rw [← List.concat_eq_append, List.concat_eq_append, ← before_succ]
    exact h
  · exact hstays first hfirst

/-- A registered run on its way from which no panic escapes goes on or comes to its final report. -/
theorem going_succ {standing : Standing} {cancelled : Bool}
    (hstays : service.Stays id (future.before moment))
    (hgoing : Going standing cancelled ((service.after (future.before moment)).view id))
    (hintact : standing.outlook ≠ .broken) (hkept : (future moment).2 ≠ .forget id)
    (hcontained : ¬ Escapes (service.after (future.before moment)) id (future moment).2) :
    service.Stays id (future.before (moment + 1)) ∧
      ((∃ standing cancelled,
          Going standing cancelled ((service.after (future.before (moment + 1))).view id) ∧
            standing.outlook ≠ .broken) ∨
        ∃ report, (service.after (future.before (moment + 1))).status id = some report ∧
          report.isFinished = true) := by
  obtain ⟨report, hreport⟩ := Option.isSome_iff_exists.1 (hstays _ (List.prefix_refl _))
  have hlive := (hgoing.shows hreport).isFinished_eq hgoing.isSound
  have hchange := change_succ service future id moment
  refine ⟨hstays.succ (hchange.isSome_report hreport hlive hkept), ?_⟩
  cases hgoing.advance hchange with
  | waited hidle hdemanded hnext => exact .inl ⟨standing, _, hnext, hintact⟩
  | moved hevent hmet hmove hnext =>
      refine .inl ⟨_, cancelled, hnext, ?_⟩
      rw [Ne, hmove.outlook_broken_iff, not_or]
      exact ⟨hintact, fun hescapes => hcontained ⟨_, _, hevent, hmet, hescapes⟩⟩
  | finished hmet hends hafter =>
      have hfinal := congrArg View.report hafter
      simp only [view_report, hreport, Option.map_some] at hfinal
      exact .inr ⟨_, hfinal, Report.finish_isFinished ..⟩
  | crashed hmet hends hafter => exact absurd (hends.eq_none_iff.1 rfl) hintact

/-- A run on its way from which no panic escapes comes to its final report, and stays registered
until then. -/
theorem exists_finished {standing : Standing} {cancelled : Bool}
    (hgoing : Going standing cancelled (service.view id))
    (hregistered : (service.status id).isSome = true) (hintact : standing.outlook ≠ .broken)
    (hregular : future.Regular id)
    (hcontained : ∀ moment,
      ¬ Escapes (service.after (future.before moment)) id (future moment).2) :
    ∃ moment report, service.Stays id (future.before moment) ∧
      (service.after (future.before moment)).status id = some report ∧
      report.isFinished = true := by
  -- A run that never finished would be on its way at every moment, also at the end of its plan.
  refine Classical.byContradiction fun hnever => ?_
  have hall : ∀ moment, service.Stays id (future.before moment) ∧ ∃ standing cancelled,
      Going standing cancelled ((service.after (future.before moment)).view id) ∧
        standing.outlook ≠ .broken := by
    intro moment
    induction moment with
    | zero => exact ⟨stays_nil hregistered, standing, cancelled, hgoing, hintact⟩
    | succ moment ih =>
        obtain ⟨hstays, standing, cancelled, hgoing, hintact⟩ := ih
        obtain ⟨hlater, hnext | ⟨report, hreport, hfinished⟩⟩ :=
          going_succ hstays hgoing hintact (hregular.kept moment) (hcontained moment)
        · exact ⟨hlater, hnext⟩
        · exact absurd ⟨moment + 1, report, hlater, hreport, hfinished⟩ hnever
  obtain ⟨moment, hended⟩ := exists_task_eq_none hregular.fair service
  obtain ⟨_, standing, cancelled, hgoing, _⟩ := hall moment
  obtain ⟨plan, htask, _⟩ := hgoing.exists_task
  rw [hended] at htask
  cases htask

/-- What holds of a run and is kept by every event but a start of it holds from then on. -/
theorem Future.Regular.keeps (hregular : future.Regular id) (holds : View → Prop)
    (hkeep : ∀ setup now event before after, Change setup id now before event after →
      (∀ repo overrides hasRuntime, event ≠ .start id repo overrides hasRuntime) →
      holds before → holds after)
    {first last : Nat} (hle : first ≤ last)
    (hfirst : holds ((service.after (future.before first)).view id)) :
    holds ((service.after (future.before last)).view id) := by
  obtain ⟨gap, rfl⟩ := Nat.exists_eq_add_of_le hle
  induction gap with
  | zero => exact hfirst
  | succ gap ih =>
      exact hkeep _ _ _ _ _ (change_succ service future id (first + gap))
        (hregular.fresh (first + gap)) (ih (Nat.le_add_right ..))

/-- A run that a panic has broken: it is on its way to its crash, or has crashed. -/
def Doomed (view : View) : Prop :=
  (∃ standing cancelled, Going standing cancelled view ∧ standing.outlook = .broken) ∨
    (view.task = none ∧ ∀ report, view.report = some report → report.isFinished = false)

theorem Doomed.isFinished_eq {view : View} (h : Doomed view) {report : Report}
    (hreport : view.report = some report) : report.isFinished = false := by
  rcases h with ⟨standing, cancelled, hgoing, _⟩ | ⟨_, hlive⟩
  · exact (hgoing.shows hreport).isFinished_eq hgoing.isSound
  · exact hlive report hreport

theorem Doomed.change {setup : Setup} {now : Int} {before after : View} {event : Event}
    (h : Doomed before) (hchange : Change setup id now before event after)
    (hfresh : ∀ repo overrides hasRuntime, event ≠ .start id repo overrides hasRuntime) :
    Doomed after := by
  rcases h with ⟨standing, cancelled, hgoing, hbroken⟩ | ⟨htask, hlive⟩
  · cases hgoing.advance hchange with
    | waited hidle hdemanded hnext => exact .inl ⟨standing, _, hnext, hbroken⟩
    | moved hevent hmet hmove hnext =>
        exact .inl ⟨_, cancelled, hnext, hmove.outlook_broken_iff.2 (.inl hbroken)⟩
    | finished hmet hends hafter => cases hends.eq_none_iff.2 hbroken
    | crashed hmet hends hafter =>
        refine .inr ⟨by rw [hafter], ?_⟩
        intro report hreport
        rw [hafter] at hreport
        exact (hgoing.shows hreport).isFinished_eq hgoing.isSound
  · rcases hchange.eq_of_task_eq_none htask (.inr hfresh) with rfl | rfl
    · exact .inr ⟨htask, hlive⟩
    · refine .inr ⟨rfl, ?_⟩
      intro report hreport
      cases hreport

/-- A run is on its way, or its plan has ended. -/
theorem going_or_ended {standing : Standing} {cancelled : Bool}
    (hgoing : Going standing cancelled (service.view id)) (hregular : future.Regular id)
    (moment : Nat) :
    (∃ standing cancelled,
        Going standing cancelled ((service.after (future.before moment)).view id)) ∨
      ((service.after (future.before moment)).view id).task = none := by
  refine hregular.keeps
    (fun view => (∃ standing cancelled, Going standing cancelled view) ∨ view.task = none)
    ?_ (Nat.zero_le moment) (.inl ⟨standing, cancelled, hgoing⟩)
  rintro setup now event before after hchange hfresh (⟨standing, cancelled, hgoing⟩ | htask)
  · cases hgoing.advance hchange with
    | waited hidle hdemanded hnext => exact .inl ⟨standing, _, hnext⟩
    | moved hevent hmet hmove hnext => exact .inl ⟨_, cancelled, hnext⟩
    | finished hmet hends hafter => exact .inr (by rw [hafter])
    | crashed hmet hends hafter => exact .inr (by rw [hafter])
  · rcases hchange.eq_of_task_eq_none htask (.inr hfresh) with rfl | rfl
    · exact .inr htask
    · exact .inr rfl

/-- A run is doomed after an event in which a panic escapes from it. -/
theorem doomed_of_escapes {standing : Standing} {cancelled : Bool} {setup : Setup} {now : Int}
    {event : Event} {after : View} (hgoing : Going standing cancelled (service.view id))
    (hchange : Change setup id now (service.view id) event after)
    (hescapes : Escapes service id event) : Doomed after := by
  obtain ⟨replies, met, hevent, hmet, hescape⟩ := hescapes
  cases hgoing.advance hchange with
  | waited hidle hdemanded hnext => exact absurd hevent (hidle replies)
  | @moved other met' next hevent' hmet' hmove hnext =>
      rw [hevent, Event.step.injEq] at hevent'
      obtain ⟨_, rfl⟩ := hevent'
      rw [hmet, Option.some.injEq] at hmet'
      subst hmet'
      exact .inl ⟨next, cancelled, hnext, hmove.outlook_broken_iff.2 (.inr hescape)⟩
  | finished hmet' hends hafter => rw [hmet'] at hmet; cases hmet
  | crashed hmet' hends hafter => rw [hmet'] at hmet; cases hmet

/-- A run from which a panic escapes at some moment never comes to a final report. -/
theorem not_finished_of_escapes {standing : Standing} {cancelled : Bool}
    (hgoing : Going standing cancelled (service.view id)) (hregular : future.Regular id)
    (hescapes : Escapes (service.after (future.before moment)) id (future moment).2)
    (other : Nat) {report : Report}
    (hreport : (service.after (future.before other)).status id = some report) :
    report.isFinished = false := by
  have hmoment : ((service.after (future.before moment)).view id).task ≠ none := by
    intro htask
    obtain ⟨replies, met, _, hmet, _⟩ := hescapes
    rw [View.met?, htask] at hmet
    cases hmet
  rcases Nat.lt_or_ge moment other with hlt | hle
  · obtain ⟨standing, cancelled, hat⟩ :=
      (going_or_ended hgoing hregular moment).resolve_right hmoment
    have hdoomed := doomed_of_escapes hat (change_succ service future id moment) hescapes
    have hlater := hregular.keeps Doomed
      (fun _ _ _ _ _ hchange hfresh h => h.change hchange hfresh) hlt hdoomed
    exact hlater.isFinished_eq hreport
  · rcases going_or_ended hgoing hregular other with ⟨standing, cancelled, hat⟩ | htask
    · exact (hat.shows hreport).isFinished_eq hat.isSound
    · refine absurd ?_ hmoment
      refine hregular.keeps (fun view => view.task = none) ?_ hle htask
      intro setup now event before after hchange hfresh htask
      rcases hchange.eq_of_task_eq_none htask (.inr hfresh) with rfl | rfl
      · exact htask
      · rfl

end Futures

/-! ## A run that goes on alone -/

namespace OneRun

/-- The only run takes one step after the other. -/
def future : Future := fun _ => (1, .step id replies)

theorem future_regular : future.Regular id where
  fair moment := ⟨moment, Nat.le_refl moment, replies, rfl⟩
  kept _ := nofun
  fresh _ := nofun

/-- None of its calls panics. -/
theorem not_escapes (service : Service) : ¬ Escapes service id (.step id replies) := by
  rintro ⟨other, met, hevent, hmet, hescapes⟩
  rw [Event.step.injEq] at hevent
  obtain ⟨_, rfl⟩ := hevent
  rcases View.met?_eq_some hmet with ⟨cancelled, rfl⟩ | ⟨request, rfl⟩
  · cases hescapes
  · cases request with
    | embedTexts texts limit =>
        simp [CodeSurvey.Event.escapes, replies, Evaluator.panicked] at hescapes
    | _ => cases hescapes

end OneRun

end Service
end CodeSurvey
