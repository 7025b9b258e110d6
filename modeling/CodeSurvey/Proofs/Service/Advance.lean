import CodeSurvey.Proofs.Service.Runs
import CodeSurvey.Proofs.Survey.Protocol

/-!
# Runs on their way

A run that goes on follows the protocol of surveys from where it stands, and its report shows where
that is: it is written by the steps that tell an observer of a phase, and read at any moment.  This
file says once what becomes of a run on its way, whatever happens to the service.

## Main results

* `Service.Going`: a run that goes on from where it stands.
* `Service.Advance`, `Service.Going.advance`: all that becomes of it.
-/

namespace CodeSurvey

open Survey (Moves Ends Standing)

/-! ## Reports of standings -/

/-- Whether a report shows where a run stands. -/
structure Report.Shows (report : Report) (standing : Standing) : Prop where
  phase_eq : report.phase = standing.phase
  progress_eq : report.progress = standing.phase.progress
  status_eq : report.status = if standing.phase = .pending then .pending else .running
  retryCount_eq : report.retryCount = standing.run.retryCount
  maxRetries_eq : report.maxRetries = standing.run.maxRetries
  store_eq : report.store = none
  error_eq : report.error = none

namespace Report

variable {report : Report} {standing : Standing}

/-- A report on a sound standing is not finished. -/
theorem Shows.isFinished_eq (h : report.Shows standing) (hsound : standing.IsSound) :
    report.isFinished = false := by
  rw [isFinished, h.phase_eq]
  exact hsound.phase_isTerminal

/-- The report on a new run shows that it is pending. -/
theorem shows_pending (id : RunId) (maxRetries : UInt32) (repo : RepoRef) (now : Int) :
    (pending (.new id maxRetries) repo now).Shows
      ⟨.undecided, .pending, (Progress.start (.new id maxRetries)).run⟩ := by
  constructor <;> rfl

/-- A report that the observer is told of shows the phase and the run. -/
theorem shows_enter (h : report.Shows standing) {after : Standing} {phase : Phase}
    (hlive : phase.isTerminal = false) (hphase : after.phase = phase) (hpending : phase ≠ .pending)
    (hstatus : after.run.status = .running)
    (hmax : after.run.maxRetries = standing.run.maxRetries) (now : Int) :
    (report.enter phase after.run now).Shows after := by
  subst hphase
  rw [enter, if_neg (by simp [hlive])]
  constructor
  · rfl
  · rfl
  · simp [hstatus, hpending]
  · rfl
  · exact h.maxRetries_eq.trans hmax.symm
  · exact h.store_eq
  · exact h.error_eq

/-- A call changes nothing in a report. -/
theorem observe_of_isCall {request : Request} {answer : request.Answer}
    (h : (Event.answered request answer).isCall = true) (now : Int) :
    report.observe request now = report := by
  cases request <;> first | rfl | simp [Event.isCall, Event.isReport] at h

/-- A report that shows where a run stands goes on doing so with every answer. -/
theorem Shows.observe (h : report.Shows standing) (hsound : standing.IsSound) {request : Request}
    {answer : request.Answer} {after : Standing}
    (hmove : Moves standing (.answered request answer) after) (now : Int) :
    (report.observe request now).Shows after := by
  have hafter := hmove.isSound hsound
  have hmax := hmove.maxRetries_eq
  cases hmove with
  | called hcall hcontained =>
      rw [observe_of_isCall hcall]
      exact h
  | escaped hcall hescapes =>
      rw [observe_of_isCall hcall]
      exact ⟨h.phase_eq, h.progress_eq, h.status_eq, h.retryCount_eq, h.maxRetries_eq, h.store_eq,
        h.error_eq⟩
  | told evaluation =>
      exact ⟨h.phase_eq, h.progress_eq, h.status_eq, h.retryCount_eq, h.maxRetries_eq, h.store_eq,
        h.error_eq⟩
  | worked hphase =>
      refine shows_enter h hafter.phase_isTerminal rfl ?_ hafter.status_eq hmax now
      rintro rfl
      simp at hphase
  | retried hopen targets =>
      exact shows_enter h rfl rfl (by simp) hafter.status_eq hmax now
  | presented hphase =>
      refine shows_enter h hafter.phase_isTerminal rfl ?_ hafter.status_eq hmax now
      rintro rfl
      simp at hphase
  | @announced _ phase run hphase =>
      have hsame : report.observe (.phase phase run) now = report :=
        enter_of_isTerminal report run now hphase
      rw [hsame]
      exact h

/-- Looking whether cancellation has been demanded changes nothing that a report shows. -/
theorem Shows.looked (h : report.Shows standing) {cancelled : Bool} {after : Standing}
    (hmove : Moves standing (.looked cancelled) after) : report.Shows after := by
  cases hmove with
  | called hcall => cases hcall
  | escaped hcall => cases hcall
  | stopped | wentOn | settled =>
      exact ⟨h.phase_eq, h.progress_eq, h.status_eq, h.retryCount_eq, h.maxRetries_eq, h.store_eq,
        h.error_eq⟩

end Report

namespace Service

/-! ## Runs on their way -/

/-- What a run meets in its next step, if it looks or asks. -/
def View.met? (view : View) (replies : Replies) : Option CodeSurvey.Event :=
  match view.task with
  | some ⟨cancelled, .poll _⟩ => some (.looked cancelled)
  | some ⟨_, .ask request _⟩ => some (.answered request (replies request))
  | _ => none

/-- A run meets a look or the reply to a request. -/
theorem View.met?_eq_some {view : View} {replies : Replies} {met : CodeSurvey.Event}
    (h : view.met? replies = some met) :
    (∃ cancelled, met = .looked cancelled) ∨
      ∃ request, met = .answered request (replies request) := by
  rw [View.met?] at h
  split at h
  · exact .inl ⟨_, (Option.some.inj h).symm⟩
  · exact .inr ⟨_, (Option.some.inj h).symm⟩
  · cases h

/-- A run that goes on from where it stands, whether its cancellation has been demanded or not.  Its
report, if it is still registered, shows where it stands. -/
inductive Going (standing : Standing) (cancelled : Bool) : View → Prop where
  | intro {report : Option Report} {plan : Plan Progress} (hsound : standing.IsSound)
      (hfollows : plan.Follows Moves Ends standing)
      (hshows : ∀ shown, report = some shown → shown.Shows standing) :
      Going standing cancelled ⟨report, some ⟨cancelled, plan⟩⟩

namespace Going

variable {standing : Standing} {cancelled : Bool} {view : View}

/-- A run that goes on has a sound standing. -/
theorem isSound (h : Going standing cancelled view) : standing.IsSound := by
  cases h with
  | intro hsound hfollows hshows => exact hsound

/-- The report on a run that goes on shows where it stands. -/
theorem shows (h : Going standing cancelled view) {report : Report}
    (hreport : view.report = some report) : report.Shows standing := by
  cases h with
  | intro hsound hfollows hshows => exact hshows report hreport

/-- A run that goes on has a task whose plan keeps to the protocol. -/
theorem exists_task (h : Going standing cancelled view) :
    ∃ plan, view.task = some ⟨cancelled, plan⟩ ∧ plan.Follows Moves Ends standing := by
  cases h with
  | intro hsound hfollows hshows => exact ⟨_, rfl, hfollows⟩

end Going

/-- A run on its way waits, meets something and moves on, finishes or crashes. -/
inductive Advance (id : RunId) (standing : Standing) (cancelled : Bool) (before : View)
    (event : Event) (after : View) : Prop where
  | waited {demanded : Bool} (hidle : ∀ replies, event ≠ .step id replies)
      (hdemanded : cancelled = true → demanded = true) (hgoing : Going standing demanded after)
  | moved {replies : Replies} {met : CodeSurvey.Event} {next : Standing}
      (hevent : event = .step id replies) (hmet : before.met? replies = some met)
      (hmove : Moves standing met next) (hgoing : Going next cancelled after)
  | finished {outcome : Progress} {now : Int} (hmet : ∀ replies, before.met? replies = none)
      (hends : Ends standing (some outcome))
      (hafter : after = ⟨before.report.map (·.finish outcome now), none⟩)
  | crashed (hmet : ∀ replies, before.met? replies = none) (hends : Ends standing none)
      (hafter : after = ⟨before.report, none⟩)

section Advancing

variable {setup : Setup} {id : RunId} {now : Int} {event : Event} {before after : View}
  {standing : Standing} {cancelled : Bool}

/-- A run off the registry goes on unseen. -/
theorem Going.off (h : Going standing cancelled before) :
    Going standing cancelled ⟨none, before.task⟩ := by
  cases h with
  | intro hsound hfollows hshows =>
      refine .intro hsound hfollows ?_
      intro shown hshown
      cases hshown

/-- Nothing else becomes of a run on its way. -/
theorem Going.advance (h : Going standing cancelled before)
    (hchange : Change setup id now before event after) :
    Advance id standing cancelled before event after := by
  have hoff := h.off
  cases h with
  | intro hsound hfollows hshows =>
  cases hchange with
  | untouched hidle =>
      exact .waited (hidle.resolve_left nofun) (fun h => h) (.intro hsound hfollows hshows)
  | cancelled hlive => exact .waited nofun (fun _ => rfl) (.intro hsound hfollows hshows)
  | removed hevent hfinished =>
      have hidle : ∀ replies, event ≠ .step id replies := by
        rintro replies rfl
        rcases hevent with hevent | ⟨_, hevent⟩ <;> cases hevent
      exact .waited hidle (fun h => h) hoff
  | forgotten => exact .waited nofun (fun h => h) hoff
  | published => exact .finished (fun _ => rfl) hfollows rfl
  | crashed => exact .crashed (fun _ => rfl) hfollows rfl
  | looked =>
      obtain ⟨next, hmove, hrest⟩ := hfollows cancelled
      exact .moved rfl rfl hmove (.intro (hmove.isSound hsound) hrest fun shown hshown =>
        (hshows shown hshown).looked hmove)
  | @answered _ _ request _ replies =>
      obtain ⟨next, hmove, hrest⟩ := hfollows (replies request)
      refine .moved rfl rfl hmove (.intro (hmove.isSound hsound) hrest ?_)
      intro shown hshown
      obtain ⟨earlier, hearlier, rfl⟩ := Option.map_eq_some_iff.1 hshown
      exact (hshows earlier hearlier).observe hsound hmove now

/-- A run whose task has ended keeps its report until it is taken off the registry, and cannot be
started again before. -/
theorem Change.eq_of_task_eq_none (hchange : Change setup id now before event after)
    (htask : before.task = none)
    (hold : before.report ≠ none ∨
      ∀ repo overrides hasRuntime, event ≠ .start id repo overrides hasRuntime) :
    after = before ∨ after = ⟨none, none⟩ := by
  cases hchange with
  | untouched => exact .inl rfl
  | started =>
      rcases hold with hold | hold
      · exact absurd rfl hold
      · exact absurd rfl (hold _ _ _)
  | cancelled =>
      cases htask
      exact .inl rfl
  | removed =>
      cases htask
      exact .inr rfl
  | forgotten =>
      rw [htask]
      exact .inr rfl
  | published | crashed | looked | answered => cases htask

end Advancing

/-- The start of a run. -/
theorem going_started (adjusted : Setup) (id : RunId) (maxRetries : UInt32) (repo : RepoRef)
    (now : Int) :
    Going ⟨.undecided, .pending, (Progress.start (.new id maxRetries)).run⟩ false
      ⟨some (.pending (.new id maxRetries) repo now),
        some ⟨false, Survey.execute adjusted repo (.new id maxRetries)⟩⟩ := by
  refine .intro (Survey.isSound_start ..) (Survey.follows_execute _ _) ?_
  rintro shown ⟨⟩
  exact Report.shows_pending ..

end Service
end CodeSurvey
