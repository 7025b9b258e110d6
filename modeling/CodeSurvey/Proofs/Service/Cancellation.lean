import CodeSurvey.Proofs.Service.Fairness

/-!
# Granted cancellations

The cancellation of a run is granted as long as its report is not final, but a run looks for it only
between its phases, and for the last time before it enters the accepted phase.  A cancellation that
is granted before the last look is honoured.  One that is granted later, while the result is
announced as accepted and shown to post-processors, is ignored.  What tells the two apart is whether
the rest of the run still depends on what is to come.

## Main results

* `Plan.Completes`: whether the rest of a survey is bound to be completed.
* `Service.granted_cancellation`: a run whose cancellation has been granted fails unless its rest
  was bound to be completed already.
* `Service.granted_cancellation_ignored`: a granted cancellation of a run that is completed.
-/

namespace CodeSurvey

open Survey (Moves Ends Standing)

/-! ## Surveys that are bound to be completed -/

/-- Whether the rest of a survey is completed on every course. -/
def Plan.Completes (plan : Plan Progress) : Prop :=
  ∀ events result, plan.Course events result →
    ∃ final, result = some final ∧ final.run.status = .completed

/-- The rest of a survey is bound to be completed exactly if its end is settled. -/
theorem Survey.completes_iff {plan : Plan Progress} {standing : Standing}
    (h : plan.Follows Moves Ends standing) :
    plan.Completes ↔ standing.outlook = .settled := by
  constructor
  · intro hcompletes
    obtain ⟨events, result, hcourse, hlooks⟩ := plan.exists_course_cancelled
    obtain ⟨final, rfl, hcompleted⟩ := hcompletes events result hcourse
    obtain ⟨after, hpath, hends⟩ := h.exists_path hcourse
    refine Classical.byContradiction fun hne => ?_
    rw [hends.status_eq, if_neg (path_ne_settled hpath hne hlooks)] at hcompleted
    cases hcompleted
  · intro hsettled events result hcourse
    obtain ⟨after, hpath, hends⟩ := h.exists_path hcourse
    have hafter := path_settled hpath hsettled
    cases result with
    | none =>
        rw [hends.eq_none_iff.1 rfl] at hafter
        cases hafter
    | some final =>
        refine ⟨final, rfl, ?_⟩
        rw [hends.status_eq, if_pos hafter]

namespace Service

variable {setup : Setup} {service : Service} {id : RunId} {now : Int} {event : Event}
  {before after : View}

/-! ## After the grant -/

/-- A cancellation is granted on a live run, whose task learns of it. -/
theorem view_cancel (h : (service.cancel id).1 = true) :
    ∃ live, service.status id = some live ∧ live.isFinished = false ∧
      (service.cancel id).2.view id = ⟨some live, (service.tasks.get? id).map Task.cancel⟩ := by
  rw [cancel] at h ⊢
  cases hlive : service.registry.isLive id with
  | false =>
      rw [hlive] at h
      cases h
  | true =>
      obtain ⟨live, hreport, hopen⟩ := isLive_iff.1 hlive
      refine ⟨live, hreport, hopen, ?_⟩
      simp only [if_true, view, status, hreport, OrderedMap.get?_modify_self]
      rfl

theorem Going.cancel {standing : Standing} {cancelled : Bool} {report : Option Report}
    {task : Option Task} (h : Going standing cancelled ⟨report, task⟩) :
    Going standing true ⟨report, task.map Task.cancel⟩ := by
  cases h with
  | intro hsound hfollows hshows => exact .intro hsound hfollows hshows

/-- A run whose cancellation has been demanded sees so whenever it looks. -/
theorem Going.met?_ne {standing : Standing} (h : Going standing true before) {replies : Replies}
    {met : CodeSurvey.Event} (hmet : before.met? replies = some met) : met ≠ .looked false := by
  obtain ⟨plan, htask, _⟩ := h.exists_task
  rw [View.met?, htask] at hmet
  cases plan with
  | done value => cases hmet
  | crash => cases hmet
  | poll next =>
      cases hmet
      simp
  | ask request next =>
      cases hmet
      simp

/-- What becomes of a run whose cancellation has been granted: it goes on, settled or not as it was
then, or its task has ended, with the status that belongs to that. -/
def Granted (settled : Prop) (view : View) : Prop :=
  (∃ standing, Going standing true view ∧ (standing.outlook = .settled ↔ settled)) ∨
    (view.task = none ∧ ∀ final, view.report = some final → final.isFinished = true →
      (final.status = .completed ∧ settled) ∨ (final.status = .failed ∧ ¬ settled))

/-- A move that is no look without a demand leaves the end as settled as it was. -/
theorem outlook_settled_iff {standing next : Standing} {met : CodeSurvey.Event}
    (hmove : Moves standing met next) (hmet : met ≠ .looked false) :
    next.outlook = .settled ↔ standing.outlook = .settled := by
  constructor
  · intro hnext
    exact Classical.byContradiction fun hne => hmove.outlook_ne_settled hne hmet hnext
  · exact hmove.outlook_settled

theorem Granted.change {settled : Prop} (h : Granted settled before)
    (hchange : Change setup id now before event after) (hregistered : before.report ≠ none) :
    Granted settled after := by
  rcases h with ⟨standing, hgoing, hsettled⟩ | ⟨htask, hstatus⟩
  · cases hgoing.advance hchange with
    | waited hidle hdemanded hnext =>
        cases hdemanded rfl
        exact .inl ⟨standing, hnext, hsettled⟩
    | moved hevent hmet hmove hnext =>
        have hsame := outlook_settled_iff hmove (hgoing.met?_ne hmet)
        exact .inl ⟨_, hnext, hsame.trans hsettled⟩
    | finished hmet hends hafter =>
        refine .inr ⟨by rw [hafter], ?_⟩
        intro final hfinal _
        rw [hafter] at hfinal
        obtain ⟨report, _, rfl⟩ := Option.map_eq_some_iff.1 hfinal
        have hstatus := hends.status_eq
        by_cases houtlook : standing.outlook = .settled
        · rw [if_pos houtlook] at hstatus
          exact .inl ⟨hstatus, hsettled.1 houtlook⟩
        · rw [if_neg houtlook] at hstatus
          exact .inr ⟨hstatus, fun h => houtlook (hsettled.2 h)⟩
    | crashed hmet hends hafter =>
        refine .inr ⟨by rw [hafter], ?_⟩
        intro final hfinal hfinished
        rw [hafter] at hfinal
        rw [(hgoing.shows hfinal).isFinished_eq hgoing.isSound] at hfinished
        cases hfinished
  · rcases hchange.eq_of_task_eq_none htask (.inl hregistered) with rfl | rfl
    · exact .inr ⟨htask, hstatus⟩
    · refine .inr ⟨rfl, ?_⟩
      intro final hfinal
      cases hfinal

/-- The final report of a run whose cancellation has been granted. -/
theorem Granted.final {settled : Prop} (h : Granted settled (service.view id))
    {later : List (Int × Event)} (hstays : service.Stays id later) {final : Report}
    (hfinal : (service.after later).status id = some final) (hfinished : final.isFinished = true) :
    (final.status = .completed ∧ settled) ∨ (final.status = .failed ∧ ¬ settled) := by
  have hgranted : Granted settled ((service.after later).view id) := by
    refine hstays.induction (Granted settled) ?_ h
    intro now event before after hchange hregistered _ hbefore
    exact hbefore.change hchange (Option.isSome_iff_ne_none.1 hregistered)
  rcases hgranted with ⟨standing, hgoing, _⟩ | ⟨_, hstatus⟩
  · rw [(hgoing.shows hfinal).isFinished_eq hgoing.isSound] at hfinished
    cases hfinished
  · exact hstatus final hfinal hfinished

/-- The report on a run that has crashed stays as it is. -/
theorem status_of_task_eq_none (htask : (service.view id).task = none) {live : Report}
    (hlive : service.status id = some live) {later : List (Int × Event)}
    (hstays : service.Stays id later) : (service.after later).status id = some live := by
  have hkept := hstays.induction
    (fun view => view.task = none ∧ view.report = some live) ?_ ⟨htask, hlive⟩
  · exact hkept.2
  · rintro now event before after hchange hregistered hsome ⟨htask, hreport⟩
    rcases hchange.eq_of_task_eq_none htask (.inl (by simp [hreport])) with rfl | rfl
    · exact ⟨htask, hreport⟩
    · cases hsome

/-- The phases before the evaluation, in which a run will look whether its cancellation has been
demanded. -/
def earlyPhases : List Phase := [.pending, .ingesting, .analyzing, .fusing, .retrying]

/-- The phases after the evaluation, in which a run looks no more. -/
def latePhases : List Phase := [.accepted, .postProcessing]

/-- How the final report of a run whose cancellation has been granted depends on the report and on
the rest of the plan at the time of the grant. -/
structure EndsCancelled (live : Report) (plan : Plan Progress) (final : Report) : Prop where
  completed_iff : final.status = .completed ↔ plan.Completes
  failed_iff : final.status = .failed ↔ ¬ plan.Completes
  honoured : live.phase ∈ earlyPhases → final.status = .failed
  ignored : live.phase ∈ latePhases → final.status = .completed

theorem not_mem_earlyPhases {phase : Phase} (h : phase ∈ Survey.Outlook.settled.phases) :
    phase ∉ earlyPhases := by
  revert h
  cases phase <;> decide

theorem eq_settled_of_mem {phase : Phase} (h : phase ∈ latePhases) {outlook : Survey.Outlook}
    (hphase : phase ∈ outlook.phases) : outlook = .settled := by
  revert h hphase
  cases phase <;> cases outlook <;> decide

theorem Going.endsCancelled {standing : Standing} {cancelled : Bool} {live final : Report}
    {plan : Plan Progress} (hgoing : Going standing cancelled ⟨some live, some ⟨cancelled, plan⟩⟩)
    (hstatus : (final.status = .completed ∧ plan.Completes) ∨
      (final.status = .failed ∧ ¬ plan.Completes)) : EndsCancelled live plan final := by
  cases hgoing with
  | intro hsound hfollows hshows =>
  have hcompletes := Survey.completes_iff hfollows
  have hphase := hsound.phase_mem
  rw [← (hshows live rfl).phase_eq] at hphase
  rcases hstatus with ⟨hcompleted, hbound⟩ | ⟨hfailed, hfree⟩
  · refine ⟨by simp [hcompleted, hbound], by simp [hcompleted, hbound], ?_, fun _ => hcompleted⟩
    intro hearly
    rw [hcompletes.1 hbound] at hphase
    exact absurd hearly (not_mem_earlyPhases hphase)
  · refine ⟨by simp [hfailed, hfree], by simp [hfailed, hfree], fun _ => hfailed, ?_⟩
    intro hlate
    exact absurd (hcompletes.2 (eq_settled_of_mem hlate hphase)) hfree

/-- The final report of a run on its way when its cancellation was granted. -/
theorem Going.endsCancelled_of_stays {standing : Standing} {cancelled : Bool}
    {live final : Report} {plan : Plan Progress}
    (hgoing : Going standing cancelled ⟨some live, some ⟨cancelled, plan⟩⟩)
    (hgranted : Going standing true (service.view id)) {later : List (Int × Event)}
    (hstays : service.Stays id later) (hfinal : (service.after later).status id = some final)
    (hfinished : final.isFinished = true) : EndsCancelled live plan final := by
  obtain ⟨_, ⟨⟩, hfollows⟩ := hgoing.exists_task
  have hstarted : Granted plan.Completes (service.view id) :=
    .inl ⟨standing, hgranted, (Survey.completes_iff hfollows).symm⟩
  exact hgoing.endsCancelled (hstarted.final hstays hfinal hfinished)

/-- A live run is on its way, unless it has crashed. -/
theorem Tracked.of_live {live : Report} {task : Option Task} (h : Tracked ⟨some live, task⟩)
    (hlive : live.isFinished = false) :
    (∃ standing cancelled plan, task = some ⟨cancelled, plan⟩ ∧
      Going standing cancelled ⟨some live, some ⟨cancelled, plan⟩⟩) ∨ task = none := by
  cases h with
  | finished hfinished =>
      rw [hlive] at hfinished
      cases hfinished
  | crashed => exact .inr rfl
  | going hgoing =>
      obtain ⟨plan, rfl, _⟩ := hgoing.exists_task
      exact .inl ⟨_, _, plan, rfl, hgoing⟩

/-- The run on which a cancellation is granted is on its way, unless it has crashed. -/
theorem Tracked.cancel (h : Tracked (service.view id)) (hgranted : (service.cancel id).1 = true) :
    ∃ live, service.status id = some live ∧ live.isFinished = false ∧
      (service.cancel id).2.status id = some live ∧
      ((∃ standing cancelled plan, service.plan? id = some plan ∧
          Going standing cancelled ⟨some live, some ⟨cancelled, plan⟩⟩ ∧
          Going standing true ((service.cancel id).2.view id)) ∨
        service.plan? id = none ∧ ((service.cancel id).2.view id).task = none) := by
  obtain ⟨live, hlive, hopen, hview⟩ := view_cancel hgranted
  have htracked : Tracked ⟨some live, service.tasks.get? id⟩ := by
    rw [← hlive]
    exact h
  refine ⟨live, hlive, hopen, congrArg View.report hview, ?_⟩
  rw [hview, plan?]
  rcases htracked.of_live hopen with ⟨standing, cancelled, plan, htask, hgoing⟩ | htask
  · rw [htask]
    exact .inl ⟨standing, cancelled, plan, rfl, hgoing, hgoing.cancel⟩
  · rw [htask]
    exact .inr ⟨rfl, rfl⟩

/-- A granted cancellation is honoured unless the rest of the run is bound to be completed.  Then it
is ignored, as always in the last phases; in the phases before the evaluation it is always honoured.
In either case the run comes to its final report if it keeps taking steps and no panic escapes. -/
theorem granted_cancellation (setup : Setup) (history : List (Int × Event)) (id : RunId) :
    let service := (new setup).after history
    let granted := (service.cancel id).2
    (service.cancel id).1 = true →
      ∃ live, service.status id = some live ∧ live.isFinished = false ∧
        (∀ later final, granted.Stays id later →
          (granted.after later).status id = some final → final.isFinished = true →
            ∃ plan, service.plan? id = some plan ∧ EndsCancelled live plan final) ∧
        ∀ plan, service.plan? id = some plan → plan ≠ .crash →
          ∀ future : Future, future.Regular id →
            (∀ moment, ¬ Escapes (granted.after (future.before moment)) id (future moment).2) →
              ∃ moment final, granted.Stays id (future.before moment) ∧
                (granted.after (future.before moment)).status id = some final ∧
                final.isFinished = true := by
  intro service granted hgranted
  obtain ⟨live, hlive, hopen, hreport, hrun⟩ := (tracked setup history id).cancel hgranted
  refine ⟨live, hlive, hopen, ?_, ?_⟩
  · intro later final hstays hfinal hfinished
    rcases hrun with ⟨standing, cancelled, plan, hplan, hgoing, hcancelled⟩ | ⟨_, htask⟩
    · exact ⟨plan, hplan, hgoing.endsCancelled_of_stays hcancelled hstays hfinal hfinished⟩
    · rw [status_of_task_eq_none htask hreport hstays, Option.some.injEq] at hfinal
      rw [← hfinal, hopen] at hfinished
      cases hfinished
  · intro plan hplan hintact future hregular hcontained
    rcases hrun with ⟨standing, cancelled, rest, hrest, hgoing, hcancelled⟩ | ⟨hnone, _⟩
    · rw [hplan, Option.some.injEq] at hrest
      subst hrest
      obtain ⟨_, ⟨⟩, hfollows⟩ := hgoing.exists_task
      exact exists_finished hcancelled (Option.isSome_of_eq_some hreport)
        (fun hbroken => hintact (Survey.eq_crash_of_broken hfollows hbroken)) hregular hcontained
    · rw [hplan] at hnone
      cases hnone

/-- The cancellation of the only run of a service is granted in its accepted phase. -/
theorem granted_cancellation_one_run :
    let granted := ((OneRun.service 14).cancel OneRun.id).2
    ((OneRun.service 14).cancel OneRun.id).1 = true ∧
      (∃ live plan final, (OneRun.service 14).status OneRun.id = some live ∧
        (granted.after (OneRun.steps 2)).status OneRun.id = some final ∧
        EndsCancelled live plan final) ∧
      ∃ moment final, granted.Stays OneRun.id (OneRun.future.before moment) ∧
        (granted.after (OneRun.future.before moment)).status OneRun.id = some final ∧
        final.isFinished = true := by
  intro granted
  have hgranted : ((OneRun.service 14).cancel OneRun.id).1 = true := by decide +kernel
  obtain ⟨live, hlive, _, hends, hfinishes⟩ :=
    granted_cancellation OneRun.setup ((0, OneRun.start) :: OneRun.steps 14) OneRun.id hgranted
  refine ⟨hgranted, ?_, ?_⟩
  · have hstays : granted.Stays OneRun.id (OneRun.steps 2) :=
      .cons (by decide +kernel) (.cons (by decide +kernel) (stays_nil (by decide +kernel)))
    have hfinished : ((granted.after (OneRun.steps 2)).status OneRun.id).map Report.isFinished =
        some true := by
      decide +kernel
    obtain ⟨final, hfinal, hfinished⟩ := Option.map_eq_some_iff.1 hfinished
    obtain ⟨plan, _, hcancelled⟩ := hends _ final hstays hfinal hfinished
    exact ⟨live, plan, final, hlive, hfinal, hcancelled⟩
  · have hintact : ((OneRun.service 14).plan? OneRun.id).any
        (fun | .crash => false | _ => true) = true := by
      decide +kernel
    cases hplan : (OneRun.service 14).plan? OneRun.id with
    | none =>
        rw [hplan] at hintact
        cases hintact
    | some plan =>
        rw [hplan] at hintact
        refine hfinishes plan hplan ?_ OneRun.future OneRun.future_regular
          fun _ => OneRun.not_escapes _
        rintro rfl
        cases hintact

/-- A granted cancellation is not always honoured: it is ignored in the accepted phase. -/
theorem granted_cancellation_ignored :
    ¬ ∀ setup history id later final,
      let service := (new setup).after history
      (service.cancel id).1 = true → (service.cancel id).2.Stays id later →
        ((service.cancel id).2.after later).status id = some final →
          final.isFinished = true → final.status = .failed := by
  intro h
  have hcompleted : ((((OneRun.service 14).cancel OneRun.id).2.after (OneRun.steps 2)).status
      OneRun.id).map (fun final => (final.isFinished, final.status)) =
        some (true, .completed) := by
    decide +kernel
  obtain ⟨final, hfinal, hends⟩ := Option.map_eq_some_iff.1 hcompleted
  rw [Prod.mk.injEq] at hends
  obtain ⟨hfinished, hstatus⟩ := hends
  have hfailed := h OneRun.setup ((0, OneRun.start) :: OneRun.steps 14) OneRun.id (OneRun.steps 2)
    final (by decide +kernel)
    (.cons (by decide +kernel) (.cons (by decide +kernel) (stays_nil (by decide +kernel))))
    hfinal hfinished
  rw [hstatus] at hfailed
  cases hfailed

end Service
end CodeSurvey
