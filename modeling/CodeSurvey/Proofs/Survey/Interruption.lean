import CodeSurvey.Proofs.Survey.Phases

/-!
# Interrupted surveys

A survey whose cancellation is demanded during a call completes the phase that it is in: it makes
the remaining calls of the phase, and looks at the cancellation before it enters another one.  So no
call of a later phase is made, and what the survey leaves behind is the result of all completed
phases.

## Main results

* `Survey.EndsIn`: the last calls of a survey, and the phase that they belong to.
* `Survey.Leaves`: what a pass leaves behind that is interrupted in a phase.
* `Survey.lastCalls_carryOut`: the last calls of every survey in which no panic escapes.
* `Survey.cancellation_boundary`: an interrupted survey completes the phase and fails.
-/

namespace CodeSurvey

/-! ## Where a way can be split -/

/-- If a list is split at two of its places, one place is behind the other, or they are the same. -/
theorem append_cons_eq_append_cons {α : Type} {first last before after : List α} {x y : α}
    (h : first ++ x :: last = before ++ y :: after) :
    (∃ between, before = first ++ x :: between ∧ last = between ++ y :: after) ∨
      (x = y ∧ last = after) ∨
      ∃ between, first = before ++ y :: between ∧ after = between ++ x :: last := by
  rcases List.append_eq_append_iff.1 h with ⟨between, hbefore, hrest⟩ | ⟨between, hfirst, hrest⟩
  · rcases List.cons_eq_append_iff.1 hrest with ⟨_, hsame⟩ | ⟨between, rfl, hlast⟩
    · exact .inr (.inl (by simpa [eq_comm] using hsame))
    · exact .inl ⟨between, hbefore, hlast⟩
  · rcases List.cons_eq_append_iff.1 hrest with ⟨_, hsame⟩ | ⟨between, rfl, hafter⟩
    · exact .inr (.inl (by simpa using hsame))
    · exact .inr (.inr ⟨between, hfirst, hafter⟩)

namespace Survey

open Event (phases)

section Boundary

variable {setup : Setup} {snapshot : Snapshot} {run : Run} {progress : Progress}
  {events : List Event}

/-! ## The last calls -/

/-- Whether the last calls of a survey are made in a phase: since the last look that found no
cancellation demanded the observer was told of the phase, these calls were made, and no others. -/
structure EndsIn (phase : Phase) (run : Run) (earlier calls closing events : List Event) :
    Prop where
  events_eq : events = earlier ++ .entered phase run :: (calls ++ closing)
  looked : ∃ first silent, earlier = first ++ .looked false :: silent ∧
    ∀ event ∈ silent, event.isCall = false
  calls : ∀ event ∈ calls, event.isCall = true
  closing : ∀ event ∈ closing, event.isCall = false

section EndsIn

variable {phase : Phase} {earlier calls closing : List Event}

/-- Something that makes no calls may follow. -/
theorem EndsIn.append (h : EndsIn phase run earlier calls closing events) {more : List Event}
    (hmore : ∀ event ∈ more, event.isCall = false) :
    EndsIn phase run earlier calls (closing ++ more) (events ++ more) where
  events_eq := by simp [h.events_eq]
  looked := h.looked
  calls := h.calls
  closing := List.forall_mem_append.2 ⟨h.closing, hmore⟩

/-- Anything may precede. -/
theorem EndsIn.prepend (h : EndsIn phase run earlier calls closing events) (more : List Event) :
    EndsIn phase run (more ++ earlier) calls closing (more ++ events) where
  events_eq := by simp [h.events_eq]
  looked := by
    obtain ⟨first, silent, rfl, hsilent⟩ := h.looked
    exact ⟨more ++ first, silent, by simp, hsilent⟩
  calls := h.calls
  closing := h.closing

/-- A call after which every look finds cancellation demanded is one of the last calls. -/
theorem EndsIn.split {before after : List Event} {call : Event}
    (h : EndsIn phase run earlier calls closing (before ++ call :: after))
    (hcall : call.isCall = true) (hafter : .looked false ∉ after) :
    ∃ pre post, calls = pre ++ call :: post ∧ before = earlier ++ .entered phase run :: pre ∧
      after = post ++ closing := by
  have hsilent : ∀ {events : List Event}, (∀ event ∈ events, event.isCall = false) →
      call ∉ events := by
    intro events hevents hmem
    rw [hevents call hmem] at hcall
    cases hcall
  rcases append_cons_eq_append_cons h.events_eq.symm with
    ⟨pre, hbefore, hrest⟩ | ⟨rfl, _⟩ | ⟨between, hearlier, hafterwards⟩
  · rcases List.append_eq_append_iff.1 hrest with ⟨_, _, hclosing⟩ | ⟨rest, hcalls, hrest⟩
    · exact absurd (by simp [hclosing]) (hsilent h.closing)
    · rcases List.cons_eq_append_iff.1 hrest with ⟨_, hclosing⟩ | ⟨post, rfl, hpost⟩
      · exact absurd (by simp [hclosing]) (hsilent h.closing)
      · exact ⟨pre, post, hcalls, hbefore, hpost⟩
  · cases hcall
  · -- The call would stand before the last look that let the survey go on.
    exfalso
    obtain ⟨first, silent, hlooked, hquiet⟩ := h.looked
    rw [hearlier] at hlooked
    rcases append_cons_eq_append_cons hlooked with ⟨_, _, hmore⟩ | ⟨rfl, _⟩ | ⟨_, _, hmore⟩
    · exact hafter (by simp [hafterwards, hmore])
    · cases hcall
    · exact hsilent hquiet (by simp [hmore])

end EndsIn

/-! ## What is left behind -/

/-- The phases of a pass in which calls are made. -/
def workingPhases : List Phase := [.analyzing, .fusing, .evaluating]

/-- Whether nothing has been evaluated since. -/
structure Unevaluated (before final : Progress) : Prop where
  evaluation : final.evaluation = before.evaluation
  decision : final.decision = before.decision
  passes : final.passes = before.passes

/-- What a pass leaves behind that is interrupted in a phase, by what it met before the phase and by
all calls of the phase. -/
inductive Leaves (setup : Setup) (snapshot : Snapshot) (before : Progress)
    (passing calls : List Event) (final : Progress) : Phase → Prop where
  | analyzing {replies : AnalysisReplies} (hpassing : passing = [.looked false])
      (hcalls : calls = [.answered (.analyze snapshot before.run.targets
        (Stages.snippets snapshot before.run.targets)) replies])
      (hstore : final.store = before.store) (hunevaluated : Unevaluated before final) :
      Leaves setup snapshot before passing calls final .analyzing
  | fusing {replies : AnalysisReplies} {report : FusionReport}
      (hpassing : passing = analysisEvents snapshot before replies ++ [.looked false])
      (hfused : (setup.fuse (inputs setup snapshot before replies) before.run.targets
        before.store).Course calls (some (final.store, report)))
      (hunevaluated : Unevaluated before final) :
      Leaves setup snapshot before passing calls final .fusing
  | evaluating {replies : AnalysisReplies} {fusing : List Event} {fused : Store}
      {report : FusionReport} {evaluation : Evaluation}
      (hpassing : passing =
        analysisEvents snapshot before replies ++ fusionEvents before fusing ++ [.looked false])
      (hfused : (setup.fuse (inputs setup snapshot before replies) before.run.targets
        before.store).Course fusing (some (fused, report)))
      (hevaluated : (setup.evaluator.evaluate fused before.run.targets
        before.run.retryCount).Course calls (some (final.store, evaluation)))
      (hevaluation : final.evaluation = some evaluation)
      (hdecision : final.decision = some (before.run.settle evaluation))
      (hpasses : final.passes = before.passes + 1) :
      Leaves setup snapshot before passing calls final .evaluating

/-- What a survey meets before its first pass. -/
inductive Preparation (setup : Setup) (run : Run) : List Event → Prop where
  | snapshot : Preparation setup run []
  | repository {repo : RepoRef} {taking : List Event} {snapshot : Snapshot}
      (htaking : (ingest setup repo (Progress.start run).run).Course taking
        (some (.ok snapshot))) : Preparation setup run (takingEvents run taking)

/-- What the last calls of a survey belong to: there are none, they belong to no pass, or to one
that leaves its results behind and is followed by a failure. -/
inductive LastCalls (setup : Setup) (run : Run) (events : List Event) (final : Progress) :
    Prop where
  | nowhere (hsilent : ∀ event ∈ events, event.isCall = false)
  | elsewhere {phase : Phase} {current : Run} {earlier calls closing : List Event}
      (hphase : phase ∉ workingPhases) (hends : EndsIn phase current earlier calls closing events)
  | inPass {phase : Phase} {snapshot : Snapshot} {rounds : List Round} {before last : Progress}
      {opening passing calls closing : List Event} (hopening : Preparation setup run opening)
      (hreaches : Reaches setup snapshot run rounds before)
      (hends : EndsIn phase before.run (opening ++ (Round.eventsOf rounds ++ passing)) calls
        closing events)
      (hleaves : Leaves setup snapshot before passing calls final phase)
      (hfinal : final = stopped last)

/-! ## The last calls of a pass -/

/-- The last calls after an analysis are those of its stages. -/
theorem endsIn_analysisEvents (snapshot : Snapshot) (progress : Progress)
    (replies : AnalysisReplies) :
    EndsIn .analyzing progress.run [.looked false] [.answered (.analyze snapshot
      progress.run.targets (Stages.snippets snapshot progress.run.targets)) replies] []
        (analysisEvents snapshot progress replies) where
  events_eq := rfl
  looked := ⟨[], [], rfl, by simp⟩
  calls := by simp [Event.isCall, Event.isReport]
  closing := by simp

/-- The last calls after a fusion are those of its ladders. -/
theorem Fuses.endsIn {replies : AnalysisReplies} {steps : List Fusion.Step} {calls : List Event}
    (h : Fuses setup snapshot progress replies steps calls) :
    EndsIn .fusing progress.run [.looked false] calls [] (fusionEvents progress calls) where
  events_eq := by simp [fusionEvents]
  looked := ⟨[], [], rfl, by simp⟩
  calls := Fusion.follows_fuse.forall_mem (fun _ _ _ => TierCalls.isCall) h.course
  closing := by simp

/-- The last calls after an evaluation are those of the gate. -/
theorem endsIn_gradingEvents {replies : AnalysisReplies} {steps : List Fusion.Step}
    {calls : List Event} {result : Option (Store × Evaluation)}
    (h : (grading setup snapshot progress replies steps).Course calls result) :
    EndsIn .evaluating progress.run [.looked false] calls [] (gradingEvents progress calls) where
  events_eq := by simp [gradingEvents]
  looked := ⟨[], [], rfl, by simp⟩
  calls := Evaluator.calls_evaluate.isCall h
  closing := by simp

/-- A survey that is stopped makes no calls. -/
theorem stopEvents_silent (progress : Progress) :
    ∀ event ∈ stopEvents progress, event.isCall = false := by
  simp [stopEvents, Event.isCall, Event.isReport]

/-- The last calls of a pass that comes to its evaluation are those of the evaluation, and whatever
has the evaluation, its decision and its store was left behind by them. -/
theorem Evaluates.endsIn {found : Findings}
    (h : Evaluates setup snapshot progress found events) :
    ∃ passing calls,
      EndsIn .evaluating progress.run passing calls [.told found.evaluation] events ∧
        ∀ final : Progress, final.store = found.scored →
          final.evaluation = some found.evaluation →
            final.decision = some (progress.run.settle found.evaluation) →
              final.passes = progress.passes + 1 →
                Leaves setup snapshot progress passing calls final .evaluating := by
  cases h with
  | @told fusing judging hfuses hgrades =>
      have htold : ∀ event ∈ [Event.told found.evaluation], event.isCall = false := by
        simp [Event.isCall, Event.isReport]
      refine ⟨_, judging, ((endsIn_gradingEvents hgrades).prepend
        (analysisEvents snapshot progress found.replies ++ fusionEvents progress fusing)).append
          htold, ?_⟩
      intro final hstore hevaluation hdecision hpasses
      rw [grading, ← hstore] at hgrades
      exact .evaluating rfl hfuses.course hgrades hevaluation hdecision hpasses

/-! ## The last calls of a survey -/

section LastCalls

variable {rounds : List Round} {opening last : List Event}

/-- The last calls after the snapshot is taken are those that took it. -/
theorem endsIn_takingEvents {repo : RepoRef} {taking : List Event}
    {result : Option (Except Failure Snapshot)}
    (h : (ingest setup repo (Progress.start run).run).Course taking result) :
    EndsIn .ingesting (Progress.start run).run [.looked false] taking []
      (takingEvents run taking) where
  events_eq := by simp [takingEvents]
  looked := ⟨[], [], rfl, by simp⟩
  calls := (calls_ingest setup repo _).isCall h
  closing := by simp

/-- If a pass is stopped before it begins, then the last calls are those of the evaluation before
it, which asked for the pass. -/
theorem Reaches.lastCalls_stopped (hopening : Preparation setup run opening)
    (h : Reaches setup snapshot run rounds progress) :
    LastCalls setup run (opening ++ (Round.eventsOf rounds ++ stopEvents progress))
      (stopped progress) := by
  cases h with
  | start entries =>
      have hsilent := stopEvents_silent ((Progress.start run).record entries)
      cases hopening with
      | snapshot => exact .nowhere hsilent
      | repository htaking =>
          exact .elsewhere (by simp [workingPhases]) ((endsIn_takingEvents htaking).append hsilent)
  | @again rounds before after events earlier round =>
      cases passTrace round with
      | @again found events targets hevaluates hopen hnext =>
          obtain ⟨passing, calls, hends, hleaves⟩ := hevaluates.endsIn
          have hretrying : ∀ event ∈ [Event.entered .retrying (before.run.retried targets)],
              event.isCall = false := by simp [Event.isCall, Event.isReport]
          have hall := (((hends.append hretrying).append (stopEvents_silent (scheduled
            (assessed setup snapshot before found) targets))).prepend
              (Round.eventsOf rounds)).prepend opening
          rw [Round.eventsOf_concat, List.append_assoc]
          rw [List.append_assoc] at hall
          exact .inPass hopening earlier hall (hleaves _ rfl rfl rfl rfl) rfl

/-- After an accepted pass the survey is stopped, or completed with calls in other phases. -/
theorem lastCalls_of_accepted {found : Findings} {passing finishing : List Event}
    {result : Option Progress} (hopening : Preparation setup run opening)
    (hreaches : Reaches setup snapshot run rounds progress)
    (hevaluates : Evaluates setup snapshot progress found passing)
    (hfinish : (finish setup (assessed setup snapshot progress found)).Course finishing result) :
    ∃ final, result = some final ∧
      LastCalls setup run (opening ++ (Round.eventsOf rounds ++ (passing ++ finishing))) final := by
  cases finishCourse hfinish with
  | stopped =>
      obtain ⟨earlier, calls, hends, hleaves⟩ := hevaluates.endsIn
      have hall := ((hends.append (stopEvents_silent
        (assessed setup snapshot progress found))).prepend (Round.eventsOf rounds)).prepend opening
      exact ⟨_, rfl, .inPass hopening hreaches hall (hleaves _ rfl rfl rfl rfl) rfl⟩
  | completed hduring =>
      obtain ⟨outcomes, -, rfl, -⟩ := course_postProcess hduring
      have hcalls : ∀ event ∈ processorEvents (assessed setup snapshot progress found) 0 outcomes,
          event.isCall = true := fun _ => isCall_of_mem_processorEvents
      have hdone : ∀ event ∈
          [Event.entered .done (assessed setup snapshot progress found).complete.run],
          event.isCall = false := by simp [Event.isCall, Event.isReport]
      refine ⟨_, rfl, ?_⟩
      rw [processing]
      split
      · have hends : EndsIn .accepted (assessed setup snapshot progress found).run
            [.looked false] _ _ _ := ⟨rfl, ⟨[], [], rfl, by simp⟩, hcalls, hdone⟩
        exact .elsewhere (by simp [workingPhases])
          (((hends.prepend passing).prepend (Round.eventsOf rounds)).prepend opening)
      · have hends : EndsIn .postProcessing (assessed setup snapshot progress found).run
            [.looked false, .entered .accepted (assessed setup snapshot progress found).run]
            _ _ _ :=
          ⟨rfl, ⟨[], _, rfl, by simp [Event.isCall, Event.isReport]⟩, hcalls, hdone⟩
        exact .elsewhere (by simp [workingPhases])
          (((hends.prepend passing).prepend (Round.eventsOf rounds)).prepend opening)

/-- The last calls of a survey that is closed by a last pass from which no panic escapes. -/
theorem Closes.lastCalls {result : Option Progress} (hopening : Preparation setup run opening)
    (hreaches : Reaches setup snapshot run rounds progress)
    (h : Closes setup snapshot progress last result)
    (hcontained : ∀ event ∈ last, event.escapes = false) :
    ∃ final, result = some final ∧
      LastCalls setup run (opening ++ (Round.eventsOf rounds ++ last)) final := by
  cases h with
  | crashed hpass => exact absurd rfl (course_pass_ne_none hpass hcontained)
  | accepted hpass hfinish =>
      cases passTrace hpass with
      | accepted hevaluates hsettle =>
          exact lastCalls_of_accepted hopening hreaches hevaluates hfinish
  | abandoned hpass =>
      refine ⟨_, rfl, ?_⟩
      cases passTrace hpass with
      | unstarted => exact hreaches.lastCalls_stopped hopening
      | analyzed replies =>
          have hends := ((((endsIn_analysisEvents snapshot progress replies).append
            (stopEvents_silent (analyzed setup snapshot progress replies))).prepend
              (Round.eventsOf rounds)).prepend opening)
          exact .inPass hopening hreaches hends (.analyzing rfl rfl rfl ⟨rfl, rfl, rfl⟩) rfl
      | @fused replies steps fusing hfuses =>
          have hends := (((hfuses.endsIn.append
            (stopEvents_silent (Survey.fused setup snapshot progress replies steps))).prepend
              (analysisEvents snapshot progress replies)).prepend
                (Round.eventsOf rounds)).prepend opening
          rw [← List.append_assoc (analysisEvents snapshot progress replies)] at hends
          exact .inPass hopening hreaches hends (.fusing rfl hfuses.course ⟨rfl, rfl, rfl⟩) rfl

/-- The last calls of every survey of a snapshot belong to a pass, or there are none. -/
theorem lastCalls_of_drive {entries : List StageEntry} {result : Option Progress}
    (hopening : Preparation setup run opening)
    (hdrive : (drive setup snapshot ((Progress.start run).record entries)).Course events result)
    (hcontained : ∀ event ∈ events, event.escapes = false) :
    ∃ final, result = some final ∧ LastCalls setup run (opening ++ events) final := by
  obtain ⟨rounds, before, last, hreaches, hcloses, hevents⟩ :=
    course_drive (.start entries) hdrive
  have hsplit : events = Round.eventsOf rounds ++ last := hevents
  subst hsplit
  exact hcloses.lastCalls hopening hreaches
    fun event hmem => hcontained event (List.mem_append_right _ hmem)

/-- The last calls of every survey from which no panic escapes. -/
theorem lastCalls_carryOut {source : Source} {result : Option Progress}
    (hcourse : (carryOut setup run source).Course events result)
    (hcontained : ∀ event ∈ events, event.escapes = false) :
    ∃ final, result = some final ∧ LastCalls setup run events final := by
  cases source with
  | snapshot snapshot =>
      have hdrive : (drive setup snapshot ((Progress.start run).record [])).Course events result :=
        hcourse
      exact lastCalls_of_drive .snapshot hdrive hcontained
  | repository repo =>
      cases executeCourse hcourse with
      | stopped => exact ⟨_, rfl, .nowhere (stopEvents_silent _)⟩
      | refused htaking =>
          refine ⟨_, rfl, .elsewhere ?_ ((endsIn_takingEvents htaking).append ?_)⟩
          · simp [workingPhases]
          · simp [Event.isCall, Event.isReport]
      | crashed hcrash =>
          exact absurd rfl (course_ingest_ne_none hcrash
            fun event hmem => hcontained event (by simp [takingEvents, hmem]))
      | surveyed htaking hdrive =>
          exact lastCalls_of_drive (.repository htaking) hdrive
            fun event hmem => hcontained event (List.mem_append_right _ hmem)

end LastCalls

/-! ## Cancellation -/

/-- How a survey goes on that is interrupted in a call of a phase: the other calls of the phase are
made, and after them no others. -/
inductive Interrupted (setup : Setup) (run : Run) (phase : Phase) (final : Progress) :
    (before : List Event) → (call : Event) → (after : List Event) → Prop where
  | completed {snapshot : Snapshot} {rounds : List Round} {progress : Progress}
      {opening passing pre post closing : List Event} {call : Event}
      (hopening : Preparation setup run opening)
      (hreaches : Reaches setup snapshot run rounds progress)
      (hleaves : Leaves setup snapshot progress passing (pre ++ call :: post) final phase)
      (hclosing : ∀ event ∈ closing, event.isCall = false) :
      Interrupted setup run phase final
        (opening ++ (Round.eventsOf rounds ++ passing) ++ .entered phase progress.run :: pre) call
        (post ++ closing)

/-- The last phase of a part that ends with calls is the one that was entered before them. -/
theorem getLast?_phases {phase : Phase} {earlier calls : List Event}
    (hcalls : ∀ event ∈ calls, event.isCall = true) :
    (phases (earlier ++ .entered phase run :: calls)).getLast? = some (phase, run) := by
  have hnone : phases calls = [] := by
    rw [← Event.phases_reports, Event.reports_eq_nil_of_isCall hcalls]
    rfl
  have hentered : phases (.entered phase run :: calls) = [(phase, run)] :=
    congrArg (List.cons (phase, run)) hnone
  rw [Event.phases_append, hentered, List.getLast?_concat]

/-- Cancellation stops the work of a survey at the next boundary.  If it is demanded during a call
of a phase, and from then on every look finds it so, then the phase is completed, no call of another
phase is made, and the survey fails with the results of the completed phases. -/
theorem cancellation_boundary (setup : Setup) (run : Run) (source : Source)
    (before after : List Event) (call : Event) (result : Option Progress) (phase : Phase)
    (current : Run)
    (hcourse : (carryOut setup run source).Course (before ++ call :: after) result)
    (hcontained : ∀ event ∈ before ++ call :: after, event.escapes = false)
    (hcall : call.isCall = true) (hcancelled : .looked false ∉ after)
    (hphase : (phases before).getLast? = some (phase, current))
    (hworking : phase ∈ workingPhases) :
    ∃ final, result = some final ∧ final.run.status = .failed ∧
      final.error = some "run cancelled" ∧
      Interrupted setup run phase final before call after := by
  obtain ⟨final, rfl, hlast⟩ := lastCalls_carryOut hcourse hcontained
  refine ⟨final, rfl, ?_⟩
  have hsame : ∀ {entered current' earlier calls pre post}, calls = pre ++ call :: post →
      before = earlier ++ .entered entered current' :: pre →
        (∀ event ∈ calls, event.isCall = true) → phase = entered := by
    rintro entered current' earlier calls pre post rfl rfl hcalls
    rw [getLast?_phases fun event hmem => hcalls event (List.mem_append_left _ hmem)] at hphase
    cases hphase
    rfl
  cases hlast with
  | nowhere hsilent =>
      rw [hsilent call (by simp)] at hcall
      cases hcall
  | elsewhere hother hends =>
      obtain ⟨pre, post, hcalls, hbefore, hafter⟩ := hends.split hcall hcancelled
      rw [hsame hcalls hbefore hends.calls] at hworking
      exact absurd hworking hother
  | inPass hopening hreaches hends hleaves hfinal =>
      obtain ⟨pre, post, hcalls, hbefore, rfl⟩ := hends.split hcall hcancelled
      have hthere := hsame hcalls hbefore hends.calls
      subst hthere hcalls hbefore hfinal
      exact ⟨rfl, rfl, .completed hopening hreaches hleaves hends.closing⟩

end Boundary

/-! ## An interrupted survey of two files -/

namespace TwoFiles

/-- The host of two files that demands cancellation in the first analysis. -/
def impatientHost : Host Nat := { host with cancelled := fun analyses => decide (0 < analyses) }

/-- What the first pass meets before its analysis. -/
def beforeAnalysis : List Event := [.looked false, .entered .analyzing (Progress.start run).run]

/-- The analysis of the first pass. -/
def firstAnalysis : Event :=
  .answered (.analyze snapshot none (Stages.snippets snapshot none)) (replies 0)

/-- What follows on the analysis: cancellation is honoured. -/
def afterAnalysis : List Event := stopEvents (analyzed setup snapshot (.start run) (replies 0))

/-- The progress of the interrupted survey at its end. -/
def interrupted : Progress := stopped (analyzed setup snapshot (.start run) (replies 0))

/-- The cancellation that is demanded in the first analysis is honoured right after it. -/
theorem course_interrupted :
    (carryOut setup run (.snapshot snapshot)).Course
      (beforeAnalysis ++ firstAnalysis :: afterAnalysis) (some interrupted) := by
  have hpass : (pass setup snapshot (.start run)).Course
      (beforeAnalysis ++ firstAnalysis :: afterAnalysis) (some (.abandoned interrupted)) :=
    Plan.course_run impatientHost (pass setup snapshot (.start run)) 0
  have hdrive : (drive setup snapshot (.start run)).Course
      (beforeAnalysis ++ firstAnalysis :: afterAnalysis) (some interrupted) := by
    rw [drive_eq, Plan.course_bind_iff]
    exact .inl ⟨_, _, [], hpass, .done interrupted, (List.append_nil _).symm⟩
  exact hdrive

end TwoFiles

/-- A survey of two files that is interrupted in its first analysis fails before the fusion, and
nothing is stored. -/
theorem cancellation_boundary_two_files :
    TwoFiles.interrupted.run.status = .failed ∧
      TwoFiles.interrupted.error = some "run cancelled" ∧
      TwoFiles.interrupted.store.isEmpty = true ∧
      Interrupted TwoFiles.setup TwoFiles.run .analyzing TwoFiles.interrupted
        TwoFiles.beforeAnalysis TwoFiles.firstAnalysis TwoFiles.afterAnalysis := by
  have hboundary := cancellation_boundary TwoFiles.setup TwoFiles.run (.snapshot TwoFiles.snapshot)
    TwoFiles.beforeAnalysis TwoFiles.afterAnalysis TwoFiles.firstAnalysis
    (some TwoFiles.interrupted) .analyzing (Progress.start TwoFiles.run).run
    TwoFiles.course_interrupted ?_ rfl ?_ rfl ?_
  · obtain ⟨_, ⟨⟩, hstatus, herror, hinterrupted⟩ := hboundary
    exact ⟨hstatus, herror, rfl, hinterrupted⟩
  · simp [TwoFiles.beforeAnalysis, TwoFiles.firstAnalysis, TwoFiles.afterAnalysis, stopEvents,
      Event.escapes]
  · simp [TwoFiles.afterAnalysis, stopEvents]
  · simp [workingPhases]

end Survey
end CodeSurvey
