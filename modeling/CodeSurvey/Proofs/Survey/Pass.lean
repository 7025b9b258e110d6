import CodeSurvey.Proofs.Fusion.Courses
import CodeSurvey.Proofs.Gate.Courses
import CodeSurvey.Survey.Execution

/-!
# What a pass does

A pass is stopped on its way, crashes while it evaluates, or comes to an evaluation, on which the
result is accepted or another pass is scheduled.  This file says once what happens in each of these
cases: to the progress of the survey, what it meets on its way, and what the observer is told.

## Main results

* `Survey.PassTrace`: the events of a pass, case by case.
* `Survey.passTrace`: there are no others; in particular, a retry that the settled decision asks
  for can always be scheduled.
* `Survey.PassCourse`, `Survey.passCourse`: the same for what is found and what the observer is
  told.
-/

namespace CodeSurvey

namespace Event

/-- The replies about the snapshot. -/
def analysis? : Event → Option AnalysisReplies
  | .answered (.analyze ..) replies => some replies
  | _ => none

/-- The replies about the snapshot in the first analysis. -/
def analysisIn (events : List Event) : Option AnalysisReplies := events.findSome? analysis?

end Event

/-! ## Settled decisions -/

namespace Run

variable {run : Run} {evaluation : Evaluation}

/-- Without a retry left the result is accepted, whatever was decided. -/
theorem settle_of_ceilingReached (h : run.ceilingReached = true) :
    run.settle evaluation = .accept :=
  if_pos h

/-- While a retry is left the decision of the evaluation stands. -/
theorem settle_of_not_ceilingReached (h : run.ceilingReached = false) :
    run.settle evaluation = evaluation.decision :=
  if_neg (by simp [h])

/-- The run whose next pass has these targets, with one more retry spent. -/
def retried (run : Run) (targets : Option TargetSet) : Run :=
  { run with retryCount := run.retryCount + 1, targets := targets }

/-- A run below its ceiling has made fewer retries than it may. -/
theorem retryCount_lt_of_not_ceilingReached (h : run.ceilingReached = false) :
    run.retryCount.toNat < run.maxRetries.toNat := by
  simpa [ceilingReached, UInt32.lt_iff_toNat_lt] using h

/-- Below the ceiling the counter does not overflow. -/
theorem retried_retryCount (h : run.ceilingReached = false) (targets : Option TargetSet) :
    (run.retried targets).retryCount.toNat = run.retryCount.toNat + 1 := by
  have hlt := retryCount_lt_of_not_ceilingReached h
  have hmax : run.maxRetries.toNat < 4294967296 := run.maxRetries.toNat_lt
  rw [retried, UInt32.toNat_add]
  exact Nat.mod_eq_of_lt (by simpa using by omega)

/-- Below the ceiling a retry can be scheduled, with any targets. -/
theorem scheduleRetry_of_not_ceilingReached (h : run.ceilingReached = false)
    (targets : Option TargetSet) : run.scheduleRetry targets = .ok (run.retried targets) :=
  if_neg (by simp [h])

end Run

namespace Survey

variable {setup : Setup} {snapshot : Snapshot} {progress : Progress} {events : List Event}

/-- A settled decision asks for another pass only below the ceiling, and then the evaluation asks
for it as well. -/
theorem nextTargets_settle {run : Run} {evaluation : Evaluation} {targets : Option TargetSet}
    (h : nextTargets evaluation (run.settle evaluation) = some targets) :
    run.ceilingReached = false ∧ nextTargets evaluation evaluation.decision = some targets := by
  cases hceiling : run.ceilingReached with
  | true =>
      rw [Run.settle_of_ceilingReached hceiling] at h
      simp [nextTargets] at h
  | false =>
      rw [Run.settle_of_not_ceilingReached hceiling] at h
      exact ⟨rfl, h⟩

/-- Only an acceptance asks for no further pass. -/
theorem nextTargets_eq_none_iff {evaluation : Evaluation} {decision : Decision} :
    nextTargets evaluation decision = none ↔ decision = .accept := by
  cases decision <;> simp [nextTargets]

/-! ## The progress in the course of a pass -/

/-- What a pass finds on its way: the replies about the snapshot, what became of the ladders, the
scored store and the evaluation. -/
structure Findings where
  replies : AnalysisReplies
  steps : List Fusion.Step
  scored : Store
  evaluation : Evaluation

/-- The results of the analysis stages, and their lines in the log. -/
def analysis (setup : Setup) (snapshot : Snapshot) (progress : Progress)
    (replies : AnalysisReplies) : Stages.Results × List StageEntry :=
  let targets := progress.run.targets
  let summarized := Stages.summarize setup progress.passes targets replies.summaries
  let parsed := Stages.parse setup progress.passes replies.graph
  let embedded := Stages.embed setup progress.passes targets (Stages.snippets snapshot targets)
    replies.embeddings
  (⟨summarized.1, parsed.1, embedded.1⟩, [summarized.2, parsed.2, embedded.2])

/-- What a pass fuses. -/
def inputs (setup : Setup) (snapshot : Snapshot) (progress : Progress)
    (replies : AnalysisReplies) : FusionInputs :=
  let results := (analysis setup snapshot progress replies).1
  ⟨results.summaries, results.graph, results.embeddings,
    Stages.inferLinks setup results progress.run.targets progress.store⟩

/-- The fused store of a pass, and the report. -/
def merged (setup : Setup) (snapshot : Snapshot) (progress : Progress)
    (replies : AnalysisReplies) (steps : List Fusion.Step) : Store × FusionReport :=
  Fusion.merge setup.settings.policy.ensembleMode (inputs setup snapshot progress replies)
    progress.run.targets steps (Fusion.base progress.run.targets progress.store)

/-- The progress after the analysis. -/
def analyzed (setup : Setup) (snapshot : Snapshot) (progress : Progress)
    (replies : AnalysisReplies) : Progress :=
  progress.record (analysis setup snapshot progress replies).2

/-- The progress with a fused store. -/
def withFusion (pass : UInt32) (merged : Store × FusionReport) (progress : Progress) : Progress :=
  { progress with store := merged.1 }.record [⟨.fuse, .success, pass, fuseDetail merged.2⟩]

/-- The progress with a scored store and its evaluation. -/
def withEvaluation (pass : UInt32) (scored : Store) (evaluation : Evaluation)
    (progress : Progress) : Progress :=
  let decision := progress.run.settle evaluation
  ({ progress with store := scored }.record
    [⟨.evaluate, .success, pass, evaluateDetail evaluation decision⟩]).evaluated evaluation decision

/-- The progress after the fusion. -/
def fused (setup : Setup) (snapshot : Snapshot) (progress : Progress)
    (replies : AnalysisReplies) (steps : List Fusion.Step) : Progress :=
  withFusion progress.passes (merged setup snapshot progress replies steps)
    (analyzed setup snapshot progress replies)

/-- The progress after the evaluation. -/
def assessed (setup : Setup) (snapshot : Snapshot) (progress : Progress) (found : Findings) :
    Progress :=
  withEvaluation progress.passes found.scored found.evaluation
    (fused setup snapshot progress found.replies found.steps)

@[simp]
theorem fused_store (setup : Setup) (snapshot : Snapshot) (progress : Progress)
    (replies : AnalysisReplies) (steps : List Fusion.Step) :
    (fused setup snapshot progress replies steps).store =
      (merged setup snapshot progress replies steps).1 :=
  rfl

@[simp]
theorem assessed_run (setup : Setup) (snapshot : Snapshot) (progress : Progress)
    (found : Findings) : (assessed setup snapshot progress found).run = progress.run :=
  rfl

/-- The progress with another pass scheduled. -/
def scheduled (progress : Progress) (targets : Option TargetSet) : Progress :=
  { progress with run := progress.run.retried targets }

/-- The progress of a survey whose cancellation has been honoured. -/
def stopped (progress : Progress) : Progress := progress.fail Failure.cancelled.message

/-- The progress at which a pass can be stopped, and what the observer has been told till then. -/
inductive Halfway (setup : Setup) (snapshot : Snapshot) (progress : Progress) :
    Progress → List Event → Prop where
  | start : Halfway setup snapshot progress progress []
  | analyzed (replies : AnalysisReplies) :
      Halfway setup snapshot progress (Survey.analyzed setup snapshot progress replies)
        [.entered .analyzing progress.run]
  | fused (replies : AnalysisReplies) {steps : List Fusion.Step}
      (hsteps : Fusion.Steps .standard (inputs setup snapshot progress replies)
        progress.run.targets steps) :
      Halfway setup snapshot progress (Survey.fused setup snapshot progress replies steps)
        [.entered .analyzing progress.run, .entered .fusing progress.run]

/-- Whether a pass with these events can have found this. -/
structure Finds (setup : Setup) (snapshot : Snapshot) (progress : Progress) (events : List Event)
    (found : Findings) : Prop where
  analysis : Event.analysisIn events = some found.replies
  steps : Fusion.Steps .standard (inputs setup snapshot progress found.replies)
    progress.run.targets found.steps
  evaluate : ∃ evaluating, evaluating.Sublist events ∧
    (setup.evaluator.evaluate (merged setup snapshot progress found.replies found.steps).1
      progress.run.targets progress.run.retryCount).Course evaluating
        (some (found.scored, found.evaluation))

/-- What the observer is told in a pass until it is told of the evaluation. -/
def reportsUpTo (run : Run) (evaluation : Evaluation) : List Event := [
  .entered .analyzing run, .entered .fusing run, .entered .evaluating run, .told evaluation]

/-- The courses of a pass. -/
inductive PassCourse (setup : Setup) (snapshot : Snapshot) (progress : Progress)
    (events : List Event) : Option PassEnd → Prop where
  | stopped {halfway : Progress} {told : List Event}
      (hhalfway : Halfway setup snapshot progress halfway told)
      (hreports : Event.reports events = told ++ [.entered .failed (stopped halfway).run]) :
      PassCourse setup snapshot progress events (some (.abandoned (stopped halfway)))
  | crashed (hescapes : ∃ event ∈ events, event.escapes) :
      PassCourse setup snapshot progress events none
  | accepted {found : Findings} (hfound : Finds setup snapshot progress events found)
      (hsettle : progress.run.settle found.evaluation = .accept)
      (hreports : Event.reports events = reportsUpTo progress.run found.evaluation) :
      PassCourse setup snapshot progress events
        (some (.accepted (assessed setup snapshot progress found)))
  | again {found : Findings} {targets : Option TargetSet}
      (hfound : Finds setup snapshot progress events found)
      (hopen : progress.run.ceilingReached = false)
      (hnext : nextTargets found.evaluation found.evaluation.decision = some targets)
      (hreports : Event.reports events = reportsUpTo progress.run found.evaluation ++
        [.entered .retrying (progress.run.retried targets)]) :
      PassCourse setup snapshot progress events
        (some (.again (scheduled (assessed setup snapshot progress found) targets)))

/-! ## The events of a pass -/

/-- The analysis of a pass begins, and the replies about the snapshot come in. -/
def analysisEvents (snapshot : Snapshot) (progress : Progress) (replies : AnalysisReplies) :
    List Event := [
  .looked false, .entered .analyzing progress.run,
  .answered (.analyze snapshot progress.run.targets
    (Stages.snippets snapshot progress.run.targets)) replies]

/-- The fusion of a pass begins and makes its calls. -/
def fusionEvents (progress : Progress) (calls : List Event) : List Event :=
  .looked false :: .entered .fusing progress.run :: calls

/-- The evaluation of a pass begins and makes its calls. -/
def gradingEvents (progress : Progress) (calls : List Event) : List Event :=
  .looked false :: .entered .evaluating progress.run :: calls

/-- Cancellation is honoured. -/
def stopEvents (progress : Progress) : List Event :=
  [.looked true, .entered .failed (stopped progress).run]

/-- Whether the fusion of a pass can make these calls and come to these steps. -/
structure Fuses (setup : Setup) (snapshot : Snapshot) (progress : Progress)
    (replies : AnalysisReplies) (steps : List Fusion.Step) (calls : List Event) : Prop where
  resolves : Fusion.Steps .standard (inputs setup snapshot progress replies)
    progress.run.targets steps
  course : (setup.fuse (inputs setup snapshot progress replies) progress.run.targets
    progress.store).Course calls (some (merged setup snapshot progress replies steps))

/-- The evaluation of a pass whose fusion has come to these steps. -/
def grading (setup : Setup) (snapshot : Snapshot) (progress : Progress)
    (replies : AnalysisReplies) (steps : List Fusion.Step) : Plan (Store × Evaluation) :=
  setup.evaluator.evaluate (merged setup snapshot progress replies steps).1 progress.run.targets
    progress.run.retryCount

/-- The events of a pass until the observer is told of what has been found. -/
inductive Evaluates (setup : Setup) (snapshot : Snapshot) (progress : Progress)
    (found : Findings) : List Event → Prop where
  | told {fusing judging : List Event}
      (hfuses : Fuses setup snapshot progress found.replies found.steps fusing)
      (hgrades : (grading setup snapshot progress found.replies found.steps).Course judging
        (some (found.scored, found.evaluation))) :
      Evaluates setup snapshot progress found
        (analysisEvents snapshot progress found.replies ++ fusionEvents progress fusing ++
          gradingEvents progress judging ++ [.told found.evaluation])

/-- All that a pass can meet on its way. -/
inductive PassTrace (setup : Setup) (snapshot : Snapshot) (progress : Progress) :
    List Event → Option PassEnd → Prop where
  | unstarted :
      PassTrace setup snapshot progress (stopEvents progress)
        (some (.abandoned (stopped progress)))
  | analyzed (replies : AnalysisReplies) :
      PassTrace setup snapshot progress
        (analysisEvents snapshot progress replies ++ stopEvents progress)
        (some (.abandoned (stopped (Survey.analyzed setup snapshot progress replies))))
  | fused {replies : AnalysisReplies} {steps : List Fusion.Step} {fusing : List Event}
      (hfuses : Fuses setup snapshot progress replies steps fusing) :
      PassTrace setup snapshot progress
        (analysisEvents snapshot progress replies ++ fusionEvents progress fusing ++
          stopEvents progress)
        (some (.abandoned (stopped (Survey.fused setup snapshot progress replies steps))))
  | crashed {replies : AnalysisReplies} {steps : List Fusion.Step} {fusing judging : List Event}
      (hfuses : Fuses setup snapshot progress replies steps fusing)
      (hcrash : (grading setup snapshot progress replies steps).Course judging none) :
      PassTrace setup snapshot progress
        (analysisEvents snapshot progress replies ++ fusionEvents progress fusing ++
          gradingEvents progress judging) none
  | accepted {found : Findings} {events : List Event}
      (hevaluates : Evaluates setup snapshot progress found events)
      (hsettle : progress.run.settle found.evaluation = .accept) :
      PassTrace setup snapshot progress events
        (some (.accepted (assessed setup snapshot progress found)))
  | again {found : Findings} {events : List Event} {targets : Option TargetSet}
      (hevaluates : Evaluates setup snapshot progress found events)
      (hopen : progress.run.ceilingReached = false)
      (hnext : nextTargets found.evaluation found.evaluation.decision = some targets) :
      PassTrace setup snapshot progress
        (events ++ [.entered .retrying (progress.run.retried targets)])
        (some (.again (scheduled (assessed setup snapshot progress found) targets)))

/-! ## The phases of a pass -/

/-- Telling the observer of a phase is one event, and nothing can go wrong with it. -/
theorem course_enter_iff {phase : Phase} {result : Option Unit} :
    (enter phase progress).Course events result ↔
      events = [.entered phase progress.run] ∧ result = some () := by
  simp only [enter, Plan.request, Plan.course_ask_iff, Plan.course_done_iff]
  constructor
  · rintro ⟨_, _, ⟨rfl, rfl⟩, rfl⟩
    exact ⟨rfl, rfl⟩
  · rintro ⟨rfl, rfl⟩
    exact ⟨(), [], ⟨rfl, rfl⟩, rfl⟩

/-- An abandoned survey tells the observer of its failure and ends with the error. -/
theorem course_abandon_iff {error : String} {result : Option Progress} :
    (abandon progress error).Course events result ↔
      events = [.entered .failed (progress.fail error).run] ∧
        result = some (progress.fail error) := by
  simp only [abandon, enter, Plan.request, Plan.bind_eq, Plan.ask_bind, Plan.done_bind,
    Plan.pure_eq_done, Plan.course_ask_iff, Plan.course_done_iff]
  constructor
  · rintro ⟨_, _, ⟨rfl, rfl⟩, rfl⟩
    exact ⟨rfl, rfl⟩
  · rintro ⟨rfl, rfl⟩
    exact ⟨(), [], ⟨rfl, rfl⟩, rfl⟩

/-- A look finds cancellation demanded, and the pass is stopped there, or it goes on. -/
theorem course_unlessCancelled {next : Plan PassEnd} {result : Option PassEnd}
    (h : (unlessCancelled progress next).Course events result) :
    (events = [.looked true, .entered .failed (stopped progress).run] ∧
        result = some (.abandoned (stopped progress))) ∨
      ∃ rest, next.Course rest result ∧ events = .looked false :: rest := by
  simp only [unlessCancelled, Plan.cancelled, Plan.bind_eq, Plan.poll_bind, Plan.done_bind,
    Plan.course_poll_iff] at h
  obtain ⟨cancelled, rest, hrest, rfl⟩ := h
  cases cancelled with
  | false => exact .inr ⟨rest, hrest, rfl⟩
  | true =>
      simp only [if_true, Plan.course_bind_iff, course_abandon_iff, Plan.pure_eq_done,
        Plan.course_done_iff] at hrest
      rcases hrest with ⟨_, _, _, ⟨rfl, ⟨⟩⟩, ⟨rfl, rfl⟩, rfl⟩ | ⟨⟨_, ⟨⟩⟩, _⟩
      exact .inl ⟨rfl, rfl⟩

/-- A settled decision is carried out: the retry that it asks for can be scheduled. -/
theorem course_schedule {run : Run} (hrun : progress.run = run) {evaluation : Evaluation}
    {result : Option PassEnd}
    (h : (schedule evaluation (run.settle evaluation) progress).Course events result) :
    (run.settle evaluation = .accept ∧ events = [] ∧ result = some (.accepted progress)) ∨
      ∃ targets, run.ceilingReached = false ∧
        nextTargets evaluation evaluation.decision = some targets ∧
        events = [.entered .retrying (run.retried targets)] ∧
        result = some (.again (scheduled progress targets)) := by
  subst hrun
  rw [schedule] at h
  cases hnext : nextTargets evaluation (progress.run.settle evaluation) with
  | none =>
      simp only [hnext, Plan.pure_eq_done, Plan.course_done_iff] at h
      exact .inl ⟨nextTargets_eq_none_iff.1 hnext, h⟩
  | some targets =>
      obtain ⟨hopen, hwanted⟩ := nextTargets_settle hnext
      simp only [hnext, Run.scheduleRetry_of_not_ceilingReached hopen, Plan.bind_eq,
        Plan.course_bind_iff, course_enter_iff, Plan.pure_eq_done, Plan.course_done_iff] at h
      rcases h with ⟨_, _, _, ⟨rfl, _⟩, ⟨rfl, rfl⟩, rfl⟩ | ⟨⟨_, ⟨⟩⟩, _⟩
      exact .inr ⟨targets, hopen, hwanted, rfl, rfl⟩

/-- An evaluation crashes, or the observer is told of it and the settled decision carried out. -/
theorem course_evaluatePhase {targets : Option TargetSet} {pass : UInt32} {result : Option PassEnd}
    (h : (evaluatePhase setup targets pass progress).Course events result) :
    (∃ judging,
      (setup.evaluator.evaluate progress.store targets progress.run.retryCount).Course judging
        none ∧
      result = none ∧ events = .entered .evaluating progress.run :: judging) ∨
      ∃ judging scored evaluation last,
        (setup.evaluator.evaluate progress.store targets progress.run.retryCount).Course judging
          (some (scored, evaluation)) ∧
        (schedule evaluation (progress.run.settle evaluation)
          (withEvaluation pass scored evaluation progress)).Course last result ∧
        events = .entered .evaluating progress.run :: judging ++ .told evaluation :: last := by
  rw [evaluatePhase, Plan.bind_eq, Plan.course_bind_iff] at h
  simp only [course_enter_iff] at h
  rcases h with ⟨_, _, rest, ⟨rfl, _⟩, hrest, rfl⟩ | ⟨⟨_, ⟨⟩⟩, _⟩
  rw [Plan.bind_eq, Plan.course_bind_iff] at hrest
  rcases hrest with ⟨⟨scored, evaluation⟩, judging, after, hevaluate, hafter, rfl⟩ |
    ⟨hcrash, rfl⟩
  · simp only [Plan.request, Plan.bind_eq, Plan.ask_bind, Plan.done_bind,
      Plan.course_ask_iff] at hafter
    obtain ⟨_, last, hlast, rfl⟩ := hafter
    exact .inr ⟨judging, scored, evaluation, last, hevaluate, hlast, by simp⟩
  · exact .inl ⟨_, hcrash, rfl, by simp⟩

/-- The fusion of a pass climbs its ladders, and then the survey looks whether to go on. -/
theorem course_fusePhase {replies : AnalysisReplies} {result : Option PassEnd}
    (h : (fusePhase setup (inputs setup snapshot progress replies) progress.run.targets
      progress.passes (analyzed setup snapshot progress replies)).Course events result) :
    ∃ steps fusing last, Fuses setup snapshot progress replies steps fusing ∧
      (unlessCancelled (fused setup snapshot progress replies steps)
        (evaluatePhase setup progress.run.targets progress.passes
          (fused setup snapshot progress replies steps))).Course last result ∧
      events = .entered .fusing progress.run :: fusing ++ last := by
  rw [fusePhase, Plan.bind_eq, Plan.course_bind_iff] at h
  simp only [course_enter_iff] at h
  rcases h with ⟨_, _, rest, ⟨rfl, _⟩, hrest, rfl⟩ | ⟨⟨_, ⟨⟩⟩, _⟩
  rw [Plan.bind_eq, Plan.course_bind_iff] at hrest
  rcases hrest with ⟨value, fusing, last, hfuse, hlast, rfl⟩ | ⟨hcrash, _⟩
  · obtain ⟨steps, hsteps, hvalue⟩ := Fusion.course_fuse hfuse
    cases hvalue
    exact ⟨steps, fusing, last, ⟨hsteps, hfuse⟩, hlast, rfl⟩
  · obtain ⟨_, _, ⟨⟩⟩ := Fusion.course_fuse hcrash

/-- The analysis of a pass asks its stages once, and then the survey looks whether to go on. -/
theorem course_analyzePhase {result : Option PassEnd}
    (h : (analyzePhase setup snapshot progress).Course events result) :
    ∃ replies last,
      (unlessCancelled (analyzed setup snapshot progress replies)
        (fusePhase setup (inputs setup snapshot progress replies) progress.run.targets
          progress.passes (analyzed setup snapshot progress replies))).Course last result ∧
      .looked false :: events = analysisEvents snapshot progress replies ++ last := by
  rw [analyzePhase, Plan.bind_eq, Plan.course_bind_iff] at h
  simp only [course_enter_iff] at h
  rcases h with ⟨_, _, rest, ⟨rfl, _⟩, hrest, rfl⟩ | ⟨⟨_, ⟨⟩⟩, _⟩
  simp only [Stages.analyze, Plan.request, Plan.bind_eq, Plan.ask_bind, Plan.done_bind,
    Plan.pure_eq_done, Plan.course_ask_iff] at hrest
  obtain ⟨replies, last, hlast, rfl⟩ := hrest
  exact ⟨replies, last, hlast, rfl⟩

/-! ## The whole pass -/

/-- A pass that comes to its evaluation crashes, is accepted or is followed by another one. -/
theorem passTrace_of_evaluatePhase {replies : AnalysisReplies} {steps : List Fusion.Step}
    {fusing after : List Event} {result : Option PassEnd}
    (hfuses : Fuses setup snapshot progress replies steps fusing)
    (h : (evaluatePhase setup progress.run.targets progress.passes
      (fused setup snapshot progress replies steps)).Course after result) :
    PassTrace setup snapshot progress
      (analysisEvents snapshot progress replies ++ fusionEvents progress fusing ++
        .looked false :: after) result := by
  rcases course_evaluatePhase h with ⟨judging, hcrash, rfl, rfl⟩ |
    ⟨judging, scored, evaluation, last, hevaluate, hlast, rfl⟩
  · exact .crashed hfuses hcrash
  have hevaluates : Evaluates setup snapshot progress ⟨replies, steps, scored, evaluation⟩ _ :=
    .told hfuses hevaluate
  have hschedule : (schedule evaluation (progress.run.settle evaluation)
      (assessed setup snapshot progress ⟨replies, steps, scored, evaluation⟩)).Course last result :=
    hlast
  have hsplit : analysisEvents snapshot progress replies ++ fusionEvents progress fusing ++
      .looked false :: (.entered .evaluating (fused setup snapshot progress replies steps).run ::
        judging ++ .told evaluation :: last) =
      analysisEvents snapshot progress replies ++ fusionEvents progress fusing ++
        gradingEvents progress judging ++ [.told evaluation] ++ last := by
    simp [gradingEvents]
    rfl
  rw [hsplit]
  rcases course_schedule (assessed_run ..) hschedule with
    ⟨hsettle, rfl, rfl⟩ | ⟨targets, hopen, hnext, rfl, rfl⟩
  · rw [List.append_nil]
    exact .accepted hevaluates hsettle
  · exact .again hevaluates hopen hnext

/-- A pass meets nothing else. -/
theorem passTrace {result : Option PassEnd}
    (h : (pass setup snapshot progress).Course events result) :
    PassTrace setup snapshot progress events result := by
  rcases course_unlessCancelled h with ⟨rfl, rfl⟩ | ⟨rest, hanalyze, rfl⟩
  · exact .unstarted
  obtain ⟨replies, afterAnalysis, hafterAnalysis, hevents⟩ := course_analyzePhase hanalyze
  rw [hevents]
  rcases course_unlessCancelled hafterAnalysis with ⟨rfl, rfl⟩ | ⟨rest, hfuse, rfl⟩
  · exact .analyzed replies
  obtain ⟨steps, fusing, afterFusion, hfuses, hafterFusion, rfl⟩ := course_fusePhase hfuse
  have hsplit : analysisEvents snapshot progress replies ++ .looked false ::
      (.entered .fusing progress.run :: fusing ++ afterFusion) =
      analysisEvents snapshot progress replies ++ fusionEvents progress fusing ++ afterFusion := by
    simp [fusionEvents]
  rw [hsplit]
  rcases course_unlessCancelled hafterFusion with ⟨rfl, rfl⟩ | ⟨rest, hevaluate, rfl⟩
  · exact .fused hfuses
  · exact passTrace_of_evaluatePhase hfuses hevaluate

/-! ## What is found and what is told -/

/-- Of an analysis the observer is told its phase alone. -/
theorem reports_analysisEvents (snapshot : Snapshot) (progress : Progress)
    (replies : AnalysisReplies) :
    Event.reports (analysisEvents snapshot progress replies) = [.entered .analyzing progress.run] :=
  rfl

/-- Of a fusion the observer is told its phase alone. -/
theorem Fuses.reports_eq {replies : AnalysisReplies} {steps : List Fusion.Step}
    {calls : List Event} (h : Fuses setup snapshot progress replies steps calls) :
    Event.reports (fusionEvents progress calls) = [.entered .fusing progress.run] := by
  have hsilent := Fusion.silent_fuse _ _ h.course
  simp [fusionEvents, hsilent]

/-- A pass that comes to an evaluation tells the observer of three phases and of the evaluation. -/
theorem Evaluates.reports_eq {found : Findings}
    (h : Evaluates setup snapshot progress found events) :
    Event.reports events = reportsUpTo progress.run found.evaluation := by
  cases h with
  | told hfuses hgrades =>
      have hsilent := Evaluator.calls_evaluate.silent _ _ hgrades
      simp [reports_analysisEvents, hfuses.reports_eq, gradingEvents, hsilent, reportsUpTo]

/-- What a pass comes to can be found in its events, whatever follows them. -/
theorem Evaluates.finds {found : Findings} (h : Evaluates setup snapshot progress found events)
    (last : List Event) : Finds setup snapshot progress (events ++ last) found := by
  cases h with
  | told hfuses hgrades =>
      refine ⟨rfl, hfuses.resolves, _, ?_, hgrades⟩
      refine .trans ?_ (List.sublist_append_left _ last)
      refine .trans ?_ (List.sublist_append_left _ _)
      refine .trans ?_ (List.sublist_append_right _ _)
      exact (List.sublist_cons_self ..).trans (List.sublist_cons_self ..)

/-- Every course of a pass is one of the described ones. -/
theorem passCourse {result : Option PassEnd}
    (h : (pass setup snapshot progress).Course events result) :
    PassCourse setup snapshot progress events result := by
  cases passTrace h with
  | unstarted => exact .stopped .start rfl
  | analyzed replies => exact .stopped (.analyzed replies) rfl
  | fused hfuses =>
      refine .stopped (.fused _ hfuses.resolves) ?_
      simp [reports_analysisEvents, hfuses.reports_eq]
      rfl
  | crashed hfuses hcrash =>
      obtain ⟨event, hmem, hescapes⟩ := (Evaluator.calls_evaluate.eq_none_iff hcrash).1 rfl
      exact .crashed ⟨event, by simp [gradingEvents, hmem], hescapes⟩
  | accepted hevaluates hsettle =>
      have hfound := hevaluates.finds []
      rw [List.append_nil] at hfound
      exact .accepted hfound hsettle hevaluates.reports_eq
  | again hevaluates hopen hnext =>
      refine .again (hevaluates.finds _) hopen hnext ?_
      simp [hevaluates.reports_eq]

/-- A pass from which no panic escapes does not crash. -/
theorem course_pass_ne_none {result : Option PassEnd}
    (h : (pass setup snapshot progress).Course events result)
    (hcontained : ∀ event ∈ events, event.escapes = false) : result ≠ none := by
  rintro rfl
  cases passCourse h with
  | crashed hescapes =>
      obtain ⟨event, hmem, hescape⟩ := hescapes
      rw [hcontained event hmem] at hescape
      cases hescape

/-! ## The stores of a pass -/

/-- Fusing keeps entities under their own identities. -/
theorem merged_keyed (h : progress.store.Keyed) (replies : AnalysisReplies)
    (steps : List Fusion.Step) : (merged setup snapshot progress replies steps).1.Keyed :=
  Fusion.merge_keyed steps (Fusion.base_keyed h)

/-- What is found is the fused store, regraded by the replies about its summaries, and its tally. -/
structure Graded (setup : Setup) (snapshot : Snapshot) (progress : Progress) (events : List Event)
    (found : Findings) (reply : EntityId → Outcome Failure Vector32) : Prop where
  replied : setup.evaluator.Replied progress.run.targets
    (merged setup snapshot progress found.replies found.steps).1 events reply
  lookup : ∀ id, found.scored.get? id =
    ((merged setup snapshot progress found.replies found.steps).1.get? id).map
      (setup.evaluator.regraded progress.run.targets reply)
  edges : found.scored.edges = (merged setup snapshot progress found.replies found.steps).1.edges
  tally : found.evaluation = setup.evaluator.tally
    (merged setup snapshot progress found.replies found.steps).1 found.scored
      found.evaluation.decision

/-- Over a keyed store each score comes from one reply to its entity. -/
theorem Finds.graded {found : Findings} (h : Finds setup snapshot progress events found)
    (hkeyed : progress.store.Keyed) :
    ∃ reply, Graded setup snapshot progress events found reply := by
  have hmerged : (merged setup snapshot progress found.replies found.steps).1.Keyed :=
    merged_keyed hkeyed _ _
  obtain ⟨evaluating, hpart, hevaluate⟩ := h.evaluate
  obtain ⟨reply, hreplied, hscored, htally⟩ := Evaluator.course_evaluate hmerged hevaluate
  refine ⟨reply, ?_, ?_, ?_, htally⟩
  · intro hne
    obtain ⟨answer, hanswer, hplaces⟩ := hreplied hne
    exact ⟨answer, hpart.mem hanswer, hplaces⟩
  · intro id
    rw [hscored, Evaluator.get?_scoredStore hmerged]
  · rw [hscored, Evaluator.scoredStore_edges hmerged]

/-- Scoring keeps entities under their own identities. -/
theorem Finds.keyed {found : Findings} (h : Finds setup snapshot progress events found)
    (hkeyed : progress.store.Keyed) : found.scored.Keyed := by
  obtain ⟨reply, hgraded⟩ := h.graded hkeyed
  intro id entity hentity
  rw [hgraded.lookup] at hentity
  obtain ⟨old, hold, rfl⟩ := Option.map_eq_some_iff.1 hentity
  rw [Evaluator.regraded_id, merged_keyed hkeyed _ _ _ _ hold]

/-- Whether a pass has come to its evaluation. -/
def PassEnd.isEvaluated : PassEnd → Bool
  | .abandoned _ => false
  | .accepted _ => true
  | .again _ => true

/-- The progress at the end of a pass. -/
def PassEnd.reached : PassEnd → Progress
  | .abandoned progress => progress
  | .accepted progress => progress
  | .again progress => progress

end Survey
end CodeSurvey
