import CodeSurvey.Proofs.Service.Advance

/-!
# Reports while runs go on

A report names an outcome only together with all that belongs to it: terminal phases are published
with the outcome and never before.  So a poller never sees half of a final report, whatever the
order of the events is, and what it sees of a run only ever goes forward.

## Main results

* `Service.Tracked`: what a service knows of a run after any history.
* `Service.report_invariant`: the reports after any history, and what can become of them.
-/

namespace CodeSurvey

open Survey (Ends Standing)

/-! ## Reports that fit together -/

/-- Whether the parts of a report fit together. -/
structure Report.Consistent (report : Report) : Prop where
  done_iff : report.phase = .done ↔ report.status = .completed
  store_iff : report.status = .completed ↔ report.store.isSome = true
  failed_iff : report.phase = .failed ↔ report.status = .failed
  error_iff : report.status = .failed ↔ report.error.isSome = true
  progress_eq : report.progress = report.phase.progress
  retryCount_le : report.retryCount ≤ report.maxRetries

/-- Whether a report can become another one while its run stays registered. -/
structure Report.Precedes (report later : Report) : Prop where
  retryCount_le : report.retryCount ≤ later.retryCount
  maxRetries_eq : later.maxRetries = report.maxRetries
  eq_of_isFinished : report.isFinished = true → later = report

namespace Report

variable {report : Report} {standing : Standing}

theorem Precedes.refl (report : Report) : report.Precedes report :=
  ⟨UInt32.le_refl _, rfl, fun _ => rfl⟩

theorem Precedes.trans {second third : Report} (h : report.Precedes second)
    (hnext : second.Precedes third) : report.Precedes third where
  retryCount_le := UInt32.le_trans h.retryCount_le hnext.retryCount_le
  maxRetries_eq := hnext.maxRetries_eq.trans h.maxRetries_eq
  eq_of_isFinished hfinished := by
    have hsame := h.eq_of_isFinished hfinished
    rw [hnext.eq_of_isFinished (by rw [hsame]; exact hfinished), hsame]

/-- While a run goes on, its report names no outcome. -/
theorem Shows.consistent (h : report.Shows standing) (hsound : standing.IsSound) :
    report.Consistent := by
  have hlive := hsound.phase_isTerminal
  have hdone : standing.phase ≠ .done := by
    intro hphase
    simp [hphase, Phase.isTerminal] at hlive
  have hfailed : standing.phase ≠ .failed := by
    intro hphase
    simp [hphase, Phase.isTerminal] at hlive
  have hstatus : report.status = .pending ∨ report.status = .running := by
    rw [h.status_eq]
    split
    · exact .inl rfl
    · exact .inr rfl
  have hcompleted : report.status ≠ .completed := by
    rcases hstatus with hstatus | hstatus <;> simp [hstatus]
  have hunfailed : report.status ≠ .failed := by
    rcases hstatus with hstatus | hstatus <;> simp [hstatus]
  constructor
  · simp [h.phase_eq, hdone, hcompleted]
  · simp [h.store_eq, hcompleted]
  · simp [h.phase_eq, hfailed, hunfailed]
  · simp [h.error_eq, hunfailed]
  · rw [h.progress_eq, h.phase_eq]
  · rw [h.retryCount_eq, h.maxRetries_eq]
    exact hsound.retryCount_le

/-- The final report names the outcome, and all that belongs to it. -/
theorem Shows.finish (h : report.Shows standing) (hsound : standing.IsSound) {outcome : Progress}
    (hends : Ends standing (some outcome)) (now : Int) :
    (report.finish outcome now).Consistent := by
  have hstatus := hends.status_eq
  have herror := hends.error_isSome
  have hcount : outcome.run.retryCount ≤ report.maxRetries := by
    rw [hends.retryCount_eq, h.maxRetries_eq]
    exact hsound.retryCount_le
  have hcases : outcome.run.status = .completed ∨ outcome.run.status = .failed := by
    rw [hstatus]
    split
    · exact .inl rfl
    · exact .inr rfl
  rcases hcases with hcompleted | hfailed
  · have hnone : outcome.error.isSome ≠ true := by
      rw [Ne, herror, hcompleted]
      simp
    constructor <;> simp_all [Report.finish, terminalPhase, Phase.progress]
  · constructor <;>
      simp_all [Report.finish, terminalPhase, Phase.progress, h.store_eq]

/-- From one place to the next a run does not lose retries, and its report is not final yet. -/
theorem Shows.precedes {later : Report} {after : Standing} (h : report.Shows standing)
    (hsound : standing.IsSound) (hlater : later.Shows after)
    (hcount : standing.run.retryCount ≤ after.run.retryCount)
    (hmax : after.run.maxRetries = standing.run.maxRetries) : report.Precedes later where
  retryCount_le := by
    rw [h.retryCount_eq, hlater.retryCount_eq]
    exact hcount
  maxRetries_eq := by rw [h.maxRetries_eq, hlater.maxRetries_eq, hmax]
  eq_of_isFinished := by simp [h.isFinished_eq hsound]

theorem Shows.precedes_finish (h : report.Shows standing) (hsound : standing.IsSound)
    {outcome : Progress} (hends : Ends standing (some outcome)) (now : Int) :
    report.Precedes (report.finish outcome now) where
  retryCount_le := by
    rw [h.retryCount_eq, ← hends.retryCount_eq]
    exact UInt32.le_refl _
  maxRetries_eq := rfl
  eq_of_isFinished := by simp [h.isFinished_eq hsound]

end Report

namespace Service

/-! ## Runs after any history -/

/-- What a service knows of a run after any history: nothing, a final report, the report on a run
that has crashed, or a run on its way. -/
inductive Tracked : View → Prop where
  | unknown : Tracked ⟨none, none⟩
  | finished {report : Report} (hfinished : report.isFinished = true)
      (hconsistent : report.Consistent) : Tracked ⟨some report, none⟩
  | crashed {report : Report} {standing : Standing} (hsound : standing.IsSound)
      (hshows : report.Shows standing) : Tracked ⟨some report, none⟩
  | going {standing : Standing} {cancelled : Bool} {view : View}
      (hgoing : Going standing cancelled view) : Tracked view

namespace Tracked

variable {setup : Setup} {id : RunId} {now : Int} {event : Event} {before after : View}

theorem consistent (h : Tracked before) {report : Report} (hreport : before.report = some report) :
    report.Consistent := by
  cases h with
  | unknown => cases hreport
  | finished hfinished hconsistent =>
      cases hreport
      exact hconsistent
  | crashed hsound hshows =>
      cases hreport
      exact hshows.consistent hsound
  | going hgoing => exact (hgoing.shows hreport).consistent hgoing.isSound

/-- Every change leads from such a view to such a view. -/
theorem change (h : Tracked before) (hchange : Change setup id now before event after) :
    Tracked after := by
  cases h with
  | unknown =>
      cases hchange with
      | untouched | forgotten => exact .unknown
      | started hadjusted hvalid hrun =>
          subst hrun
          exact .going (going_started ..)
  | finished hfinished hconsistent =>
      rcases hchange.eq_of_task_eq_none rfl (.inl nofun) with rfl | rfl
      · exact .finished hfinished hconsistent
      · exact .unknown
  | crashed hsound hshows =>
      rcases hchange.eq_of_task_eq_none rfl (.inl nofun) with rfl | rfl
      · exact .crashed hsound hshows
      · exact .unknown
  | going hgoing =>
      cases hgoing.advance hchange with
      | waited hidle hdemanded hnext => exact .going hnext
      | moved hevent hmet hmove hnext => exact .going hnext
      | finished hmet hends hafter =>
          subst hafter
          cases hreport : before.report with
          | none => exact .unknown
          | some report =>
              have hshows := hgoing.shows hreport
              exact .finished (Report.finish_isFinished ..)
                (hshows.finish hgoing.isSound hends _)
      | crashed hmet hends hafter =>
          subst hafter
          cases hreport : before.report with
          | none => exact .unknown
          | some report => exact .crashed hgoing.isSound (hgoing.shows hreport)

/-- What a change makes of a report that stays. -/
theorem precedes (h : Tracked before) (hchange : Change setup id now before event after)
    {report later : Report} (hreport : before.report = some report)
    (hlater : after.report = some later) : report.Precedes later := by
  have hended : before.task = none → report.Precedes later := by
    intro htask
    rcases hchange.eq_of_task_eq_none htask (.inl (by simp [hreport])) with rfl | rfl
    · rw [hreport] at hlater
      cases hlater
      exact .refl report
    · cases hlater
  cases h with
  | unknown => exact hended rfl
  | finished | crashed => exact hended rfl
  | going hgoing =>
      have hshows := hgoing.shows hreport
      have hsound := hgoing.isSound
      cases hgoing.advance hchange with
      | waited hidle hdemanded hnext =>
          exact hshows.precedes hsound (hnext.shows hlater) (UInt32.le_refl _) rfl
      | moved hevent hmet hmove hnext =>
          exact hshows.precedes hsound (hnext.shows hlater) hmove.retryCount_le hmove.maxRetries_eq
      | finished hmet hends hafter =>
          rw [hafter, hreport] at hlater
          cases hlater
          exact hshows.precedes_finish hsound hends _
      | crashed hmet hends hafter =>
          rw [hafter, hreport] at hlater
          cases hlater
          exact .refl report

end Tracked

/-- After every history each run is tracked. -/
theorem tracked (setup : Setup) (history : List (Int × Event)) (id : RunId) :
    Tracked (((new setup).after history).view id) :=
  after_induction history (fun _ _ _ _ hchange h => h.change hchange) .unknown

/-- While a run stays registered, each of its reports precedes the later ones. -/
theorem exists_precedes {service : Service} {id : RunId} {later : List (Int × Event)}
    (htracked : Tracked (service.view id)) (hstays : service.Stays id later) :
    ∃ report final, service.status id = some report ∧
      (service.after later).status id = some final ∧ report.Precedes final := by
  obtain ⟨report, hreport⟩ := Option.isSome_iff_exists.1 hstays.isSome
  have hkept := hstays.induction
    (fun view => Tracked view ∧ ∃ final, view.report = some final ∧ report.Precedes final)
    ?_ ⟨htracked, report, hreport, .refl report⟩
  · obtain ⟨_, final, hfinal, hprecedes⟩ := hkept
    exact ⟨report, final, hreport, hfinal, hprecedes⟩
  · rintro now event before after hchange _ hsome ⟨hbefore, earlier, hearlier, hprecedes⟩
    obtain ⟨next, hnext⟩ := Option.isSome_iff_exists.1 hsome
    exact ⟨hbefore.change hchange, next, hnext,
      hprecedes.trans (hbefore.precedes hchange hearlier hnext)⟩

/-- The report on a live run disappears only if it is taken off whether finished or not. -/
theorem Change.isSome_report {setup : Setup} {id : RunId} {now : Int} {before after : View}
    {event : Event} (h : Change setup id now before event after) {report : Report}
    (hreport : before.report = some report) (hlive : report.isFinished = false)
    (hevent : event ≠ .forget id) : after.report.isSome = true := by
  cases h with
  | untouched => simp [hreport]
  | started => rfl
  | cancelled => rfl
  | removed _ hfinished =>
      cases hreport
      rw [hlive] at hfinished
      cases hfinished
  | forgotten => exact absurd rfl hevent
  | published | answered => simp_all
  | crashed | looked => simp_all

/-- A start that fails leaves the service as it was. -/
theorem handle_start_of_error {service : Service} {id : RunId} {repo : RepoRef}
    {overrides : Overrides} {hasRuntime : Bool} {now : Int} {error : StartError}
    (h : service.start id repo overrides hasRuntime now = .error error) :
    service.handle now (.start id repo overrides hasRuntime) = service := by
  rw [handle, h]
  exact ite_self _

/-- After every history the parts of every report fit together.  While a run stays registered, its
retries never decrease and a final report never changes; a live run is never removed or evicted; and
a start that fails leaves the service as it was. -/
theorem report_invariant (setup : Setup) (history : List (Int × Event)) (id : RunId) :
    let service := (new setup).after history
    (∀ report, service.status id = some report → report.Consistent) ∧
      (∀ later, service.Stays id later → ∃ report final, service.status id = some report ∧
        (service.after later).status id = some final ∧ report.Precedes final) ∧
      (∀ report now event, service.status id = some report → report.isFinished = false →
        event ≠ .forget id → ((service.handle now event).status id).isSome = true) ∧
      ∀ repo overrides hasRuntime now error,
        service.start id repo overrides hasRuntime now = .error error →
          service.handle now (.start id repo overrides hasRuntime) = service := by
  intro service
  have htracked : Tracked (service.view id) := tracked setup history id
  refine ⟨?_, ?_, ?_, ?_⟩
  · intro report hreport
    exact htracked.consistent hreport
  · intro later hstays
    exact exists_precedes htracked hstays
  · intro report now event hreport hlive hevent
    exact (change_handle service id now event).isSome_report hreport hlive hevent
  · intro repo overrides hasRuntime now error herror
    exact handle_start_of_error herror

/-! ## A service with one run

The repository of the run is empty, so nothing is scored and nobody is asked for a summary.  Without
retries the run is completed after sixteen steps: the thirteenth is the last look whether
cancellation has been demanded, the fourteenth enters the accepted phase, and the sixteenth
publishes the outcome. -/

namespace OneRun

/-- The standard settings and the standard similarity. -/
def setup : Setup where
  settings := .default
  collaborators := ⟨"summarizer", "embedder", .cosine, false⟩
  strategy := none
  postProcessors := []

def id : RunId := ⟨0⟩

def repo : RepoRef := .localPath "repository"

/-- The only run has no retries. -/
def start : Event := .start id repo { Overrides.none with maxRetries := some 0 } true

/-- The repository is made available and is empty. -/
def replies : Replies
  | .materialize .. => .ok "repository"
  | .tree .. => some .empty
  | .analyze .. => ⟨.ok [], .ok .empty, .ok []⟩
  | .phase .. => ()
  | .evaluated .. => ()
  | .decide .. => .accept
  | .embedTexts .. => fun _ => .timedOut
  | .summarizeSnippet .. => .timedOut
  | .attemptTier .. => .timedOut
  | .judgeAvailable => .timedOut
  | .askJudge .. => .timedOut
  | .postProcess .. => .timedOut

/-- So many steps of the run. -/
def steps (count : Nat) : List (Int × Event) := List.replicate count (1, .step id replies)

/-- The service after the start of the run and so many steps of it. -/
def service (count : Nat) : Service := (new setup).after ((0, start) :: steps count)

end OneRun

/-- The report of a run before its last two steps, and what becomes of it. -/
theorem report_invariant_one_run :
    (∃ report, (OneRun.service 14).status OneRun.id = some report ∧ report.Consistent ∧
      report.isFinished = false ∧
      (((OneRun.service 14).handle 2 (.evict 2)).status OneRun.id).isSome = true) ∧
    (∃ report final, (OneRun.service 14).status OneRun.id = some report ∧
      ((OneRun.service 14).after (OneRun.steps 2)).status OneRun.id = some final ∧
      report.Precedes final) ∧
    ∃ error,
      (OneRun.service 14).start OneRun.id OneRun.repo Overrides.none false 2 = .error error ∧
      (OneRun.service 14).handle 2 (.start OneRun.id OneRun.repo Overrides.none false) =
        OneRun.service 14 := by
  obtain ⟨hconsistent, hprecedes, hkept, hunchanged⟩ :=
    report_invariant OneRun.setup ((0, OneRun.start) :: OneRun.steps 14) OneRun.id
  refine ⟨?_, ?_, ?_⟩
  · have hlive : ((OneRun.service 14).status OneRun.id).map Report.isFinished = some false := by
      decide +kernel
    obtain ⟨report, hreport, hopen⟩ := Option.map_eq_some_iff.1 hlive
    exact ⟨report, hreport, hconsistent report hreport, hopen,
      hkept report 2 (.evict 2) hreport hopen nofun⟩
  · have hstays : (OneRun.service 14).Stays OneRun.id (OneRun.steps 2) :=
      .cons (by decide +kernel) (.cons (by decide +kernel) (stays_nil (by decide +kernel)))
    exact hprecedes _ hstays
  · have hrefused :
        ((OneRun.service 14).start OneRun.id OneRun.repo Overrides.none false 2).isOk = false := by
      decide +kernel
    cases hstart : (OneRun.service 14).start OneRun.id OneRun.repo Overrides.none false 2 with
    | ok started =>
        rw [hstart] at hrefused
        cases hrefused
    | error error => exact ⟨error, rfl, hunchanged _ _ _ _ _ hstart⟩

end Service
end CodeSurvey
