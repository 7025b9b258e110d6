import CodeSurvey.Proofs.Survey.Phases
import CodeSurvey.Proofs.Survey.StageLog

/-!
# Post-processors see a survey and leave it alone

A survey looks for the last time whether it has been cancelled before its result is presented.  All
that comes before this look does not depend on the post-processors, and nothing that they do is
looked at afterwards.  So a survey with post-processors is the one without them, to which their
calls and their lines in the log are added.

## Main definitions

* `Survey.rule`: a survey until its last look.
* `Survey.present`: what follows if its result is accepted.
* `Survey.Processed`: what an accepted survey and the same one without post-processors share.

## Main results

* `Survey.carryOut_eq`: a survey is ruled on and then presented.
* `Survey.rule_unprocessed`: the ruling does not depend on the post-processors.
* `Survey.course_present_iff`: any outcomes of post-processors may be met, each once.
* `Survey.post_processing`: post-processors change nothing but the log.
-/

namespace CodeSurvey

/-- The setup without its post-processors. -/
def Setup.unprocessed (setup : Setup) : Setup := { setup with postProcessors := [] }

/-! ## Presenting events -/

namespace Event

/-- Whether a post-processor has been called. -/
def isProcessorCall : Event → Bool
  | .answered (.postProcess ..) _ => true
  | _ => false

/-- The calls of post-processors, in order. -/
def processorCalls (events : List Event) : List Event := events.filter isProcessorCall

/-- Whether an event belongs to the presentation of an accepted result: the observer is told of the
acceptance, or a post-processor is called. -/
def presents : Event → Bool
  | .answered (.phase .accepted _) _ => true
  | event => event.isProcessorCall

@[simp]
theorem presents_looked (cancelled : Bool) : (looked cancelled).presents = false :=
  rfl

@[simp]
theorem presents_told (evaluation : Evaluation) : (told evaluation).presents = false :=
  rfl

/-- Among the phases only the acceptance belongs to the presentation. -/
@[simp]
theorem presents_entered (phase : Phase) (run : Run) :
    (entered phase run).presents = decide (phase = .accepted) := by
  cases phase <;> rfl

@[simp]
theorem presents_analyze (snapshot : Snapshot) (targets : Option TargetSet)
    (snippets : List Snippet) (replies : AnalysisReplies) :
    (answered (.analyze snapshot targets snippets) replies).presents = false :=
  rfl

/-- A fusion presents nothing while it climbs its ladders. -/
theorem presents_of_isTierCall {event : Event} (h : event.isTierCall = true) :
    event.presents = false := by
  unfold isTierCall at h
  split at h
  · rfl
  · rfl
  · cases h

/-- An evaluation presents nothing while it asks for embeddings or a judgement. -/
theorem presents_of_isGateCall {event : Event} (h : event.isGateCall = true) :
    event.presents = false := by
  unfold isGateCall at h
  split at h
  · rfl
  · rfl
  · rfl
  · rfl
  · cases h

/-- Where nothing is presented, no post-processor is called. -/
theorem isProcessorCall_of_presents {event : Event} (h : event.presents = false) :
    event.isProcessorCall = false := by
  unfold presents at h
  split at h
  · cases h
  · exact h

@[simp]
theorem processorCalls_append (first rest : List Event) :
    processorCalls (first ++ rest) = processorCalls first ++ processorCalls rest :=
  List.filter_append ..

/-- Events that present nothing contain no calls of post-processors. -/
theorem processorCalls_eq_nil {events : List Event} (h : ∀ event ∈ events, event.presents = false) :
    processorCalls events = [] := by
  unfold processorCalls
  rw [List.filter_eq_nil_iff]
  intro event hevent
  simp [isProcessorCall_of_presents (h event hevent)]

end Event

namespace Survey

/-! ## Until the last look -/

/-- How a survey stands after its last look: it has ended, or its result is accepted. -/
inductive Ruling where
  | ended (progress : Progress)
  | accepted (progress : Progress)

/-- Looks for the last time whether cancellation has been demanded. -/
def lastLook (progress : Progress) : Plan Ruling := do
  if ← Plan.cancelled then return .ended (← abandon progress Failure.cancelled.message)
  else return .accepted progress

/-- Makes passes until one is not to be followed by another, and looks for the last time. -/
def rulePasses (setup : Setup) (snapshot : Snapshot) : (more : Nat) → Progress → Plan Ruling
  | more, progress => do
      match ← pass setup snapshot progress with
      | .abandoned progress => return .ended progress
      | .accepted progress => lastLook progress
      | .again progress =>
          match more with
          | 0 => lastLook progress
          | more + 1 => rulePasses setup snapshot more progress

/-- The survey of a snapshot until its last look. -/
def ruleSnapshot (setup : Setup) (snapshot : Snapshot) (progress : Progress) : Plan Ruling :=
  rulePasses setup snapshot (retriesLeft progress.run) progress

/-- The survey of a repository until its last look. -/
def ruleRepository (setup : Setup) (repo : RepoRef) (run : Run) : Plan Ruling := do
  let progress := Progress.start run
  if ← Plan.cancelled then return .ended (← abandon progress Failure.cancelled.message)
  else
    enter .ingesting progress
    match ← ingest setup repo progress.run with
    | .error error =>
        return .ended
          (← abandon progress ("repository acquisition failed: " ++ error.message))
    | .ok snapshot => ruleSnapshot setup snapshot (taken run snapshot)

/-- The survey of a source until its last look. -/
def rule (setup : Setup) (run : Run) : Source → Plan Ruling
  | .repository repo => ruleRepository setup repo run
  | .snapshot snapshot => ruleSnapshot setup snapshot (.start run)

/-- Completes a survey. -/
def close (progress : Progress) : Plan Progress := do
  let progress := progress.complete
  enter .done progress
  return progress

/-- Presents the result, if it is accepted. -/
def present (setup : Setup) : Ruling → Plan Progress
  | .ended progress => .done progress
  | .accepted progress => do
      enter .accepted progress
      close (← postProcess setup progress)

section Factors

variable {setup : Setup} {snapshot : Snapshot} {run : Run} {progress : Progress}

/-- To finish a survey is to look for the last time and then to present the ruling. -/
theorem finish_eq (setup : Setup) (progress : Progress) :
    finish setup progress = (lastLook progress).bind (present setup) := by
  simp only [finish, lastLook, Plan.cancelled, Plan.bind_eq, Plan.poll_bind, Plan.done_bind,
    Plan.poll.injEq]
  funext cancelled
  cases cancelled with
  | true => rfl
  | false => rfl

/-- The loop over passes is the one that stops at the last look, followed by the presentation. -/
theorem passes_eq (setup : Setup) (snapshot : Snapshot) (more : Nat) (progress : Progress) :
    passes setup snapshot more progress =
      (rulePasses setup snapshot more progress).bind (present setup) := by
  rw [passes.eq_def, rulePasses.eq_def]
  simp only [Plan.bind_eq, Plan.bind_assoc]
  congr
  funext ending
  cases ending with
  | abandoned next => rfl
  | accepted next => exact finish_eq setup next
  | again next =>
      cases more with
      | zero => exact finish_eq setup next
      | succ more => exact passes_eq setup snapshot more next

/-- The survey of a repository is ruled on before anything is presented. -/
theorem execute_eq (setup : Setup) (repo : RepoRef) (run : Run) :
    execute setup repo run = (ruleRepository setup repo run).bind (present setup) := by
  simp only [execute, ruleRepository, Plan.cancelled, Plan.bind_eq, Plan.poll_bind, Plan.done_bind,
    Plan.poll.injEq]
  funext cancelled
  cases cancelled with
  | true => rfl
  | false =>
      simp only [Bool.false_eq_true, if_false, Plan.bind_assoc]
      congr
      funext _
      congr
      funext ingested
      cases ingested with
      | error failure => rfl
      | ok snapshot => exact passes_eq setup snapshot _ _

/-- A survey is carried out until its last look, and what comes then depends on the ruling. -/
theorem carryOut_eq (setup : Setup) (run : Run) (source : Source) :
    carryOut setup run source = (rule setup run source).bind (present setup) := by
  cases source with
  | repository repo => exact execute_eq setup repo run
  | snapshot snapshot => exact passes_eq setup snapshot _ _

/-- No pass of the loop looks at the post-processors. -/
theorem rulePasses_unprocessed (setup : Setup) (snapshot : Snapshot) (more : Nat)
    (progress : Progress) :
    rulePasses setup.unprocessed snapshot more progress =
      rulePasses setup snapshot more progress := by
  have hpass : pass setup.unprocessed snapshot = pass setup snapshot := rfl
  induction more generalizing progress with
  | zero =>
      rw [rulePasses.eq_def, rulePasses.eq_def setup, hpass]
  | succ more ih =>
      rw [rulePasses.eq_def, rulePasses.eq_def setup, hpass]
      simp only [ih]

/-- Nothing depends on the post-processors until the last look. -/
theorem rule_unprocessed (setup : Setup) (run : Run) (source : Source) :
    rule setup.unprocessed run source = rule setup run source := by
  cases source with
  | snapshot snapshot => exact rulePasses_unprocessed setup snapshot _ _
  | repository repo =>
      have hingest : ingest setup.unprocessed repo = ingest setup repo := rfl
      have hdrive : ruleSnapshot setup.unprocessed = ruleSnapshot setup := by
        funext snapshot progress
        exact rulePasses_unprocessed setup snapshot _ progress
      simp only [rule, ruleRepository, hingest, hdrive]

end Factors

/-! ## What is ruled -/

section Rulings

variable {setup : Setup} {snapshot : Snapshot} {run : Run} {progress : Progress}
  {events : List Event} {result : Option Ruling}

/-- The analysis stages present nothing. -/
theorem presents_analysisEvents (replies : AnalysisReplies) :
    ∀ event ∈ analysisEvents snapshot progress replies, event.presents = false := by
  simp [analysisEvents]

/-- A pass that is stopped presents nothing. -/
theorem presents_stopEvents : ∀ event ∈ stopEvents progress, event.presents = false := by
  simp [stopEvents]

/-- A fusion presents nothing. -/
theorem Fuses.presents_eq {replies : AnalysisReplies} {steps : List Fusion.Step}
    {calls : List Event} (h : Fuses setup snapshot progress replies steps calls) :
    ∀ event ∈ fusionEvents progress calls, event.presents = false := by
  have hcalls : ∀ event ∈ calls, event.presents = false :=
    Fusion.follows_fuse.forall_mem (fun _ _ _ => Event.presents_of_isTierCall) h.course
  simpa [fusionEvents] using hcalls

/-- An evaluation presents nothing, not even one that crashes. -/
theorem presents_gradingEvents {replies : AnalysisReplies} {steps : List Fusion.Step}
    {calls : List Event} {graded : Option (Store × Evaluation)}
    (h : (grading setup snapshot progress replies steps).Course calls graded) :
    ∀ event ∈ gradingEvents progress calls, event.presents = false := by
  have hcalls : ∀ event ∈ calls, event.presents = false :=
    Evaluator.follows_evaluate.forall_mem (fun _ _ _ => Event.presents_of_isGateCall) h
  simpa [gradingEvents] using hcalls

/-- A pass that comes to an evaluation has presented nothing on its way. -/
theorem Evaluates.presents_eq {found : Findings}
    (h : Evaluates setup snapshot progress found events) :
    ∀ event ∈ events, event.presents = false := by
  cases h with
  | told hfuses hgrades =>
      simp only [List.forall_mem_append]
      exact ⟨⟨⟨presents_analysisEvents _, hfuses.presents_eq⟩, presents_gradingEvents hgrades⟩,
        by simp⟩

/-- A pass presents nothing. -/
theorem presents_of_pass {ending : Option PassEnd}
    (h : (pass setup snapshot progress).Course events ending) :
    ∀ event ∈ events, event.presents = false := by
  cases passTrace h with
  | unstarted => exact presents_stopEvents
  | analyzed replies =>
      simp only [List.forall_mem_append]
      exact ⟨presents_analysisEvents replies, presents_stopEvents⟩
  | fused hfuses =>
      simp only [List.forall_mem_append]
      exact ⟨⟨presents_analysisEvents _, hfuses.presents_eq⟩, presents_stopEvents⟩
  | crashed hfuses hcrash =>
      simp only [List.forall_mem_append]
      exact ⟨⟨presents_analysisEvents _, hfuses.presents_eq⟩, presents_gradingEvents hcrash⟩
  | accepted hevaluates hsettle => exact hevaluates.presents_eq
  | again hevaluates hopen hnext =>
      simp only [List.forall_mem_append]
      exact ⟨hevaluates.presents_eq, by simp⟩

/-- Whether a progress is that of a survey whose result can be accepted. -/
structure Approved (progress : Progress) : Prop where
  error_eq : progress.error = none
  decision_eq : progress.decision = some .accept
  evaluation_isSome : progress.evaluation.isSome = true

/-- A pass whose result is accepted has an evaluation and the decision to accept it. -/
theorem approved_of_pass {next : Progress} (herror : progress.error = none)
    (h : (pass setup snapshot progress).Course events (some (.accepted next))) :
    Approved next := by
  cases passTrace h with
  | accepted hevaluates hsettle => exact ⟨herror, congrArg some hsettle, rfl⟩

/-- A pass that is followed by another one does not fail the survey. -/
theorem error_of_pass {next : Progress}
    (h : (pass setup snapshot progress).Course events (some (.again next))) :
    next.error = progress.error := by
  cases passTrace h with
  | again hevaluates hopen hnext => rfl

/-- What holds after the last look: nothing has been presented on the way, and an accepted result
has been approved. -/
structure Ruled (events : List Event) (result : Option Ruling) : Prop where
  presents_eq : ∀ event ∈ events, event.presents = false
  approved : ∀ progress, result = some (.accepted progress) → Approved progress

/-- Events that present nothing may come before a ruling. -/
theorem Ruled.prepend {first : List Event} (h : Ruled events result)
    (hfirst : ∀ event ∈ first, event.presents = false) : Ruled (first ++ events) result where
  presents_eq := List.forall_mem_append.2 ⟨hfirst, h.presents_eq⟩
  approved := h.approved

/-- An abandoned survey has ended without an accepted result. -/
theorem ruled_abandon {error : String}
    (h : (abandon progress error >>= fun final => pure (.ended final)).Course events result) :
    Ruled events result := by
  simp only [Plan.bind_eq, Plan.course_bind_iff, course_abandon_iff, Plan.pure_eq_done,
    Plan.course_done_iff] at h
  rcases h with ⟨_, _, _, ⟨rfl, ⟨⟩⟩, ⟨rfl, rfl⟩, rfl⟩ | ⟨⟨_, ⟨⟩⟩, _⟩
  exact ⟨by simp, by simp⟩

/-- A look finds cancellation demanded, and the survey is abandoned, or it goes on. -/
theorem ruled_look {next : Plan Ruling}
    (hnext : ∀ rest, next.Course rest result → Ruled rest result)
    (h : (do
      if ← Plan.cancelled then return .ended (← abandon progress Failure.cancelled.message)
      else next : Plan Ruling).Course events result) : Ruled events result := by
  simp only [Plan.cancelled, Plan.bind_eq, Plan.poll_bind, Plan.done_bind,
    Plan.course_poll_iff] at h
  obtain ⟨cancelled, rest, hrest, rfl⟩ := h
  have hlook : ∀ event ∈ [Event.looked cancelled], event.presents = false := by
    simp
  have hruled : Ruled rest result := by
    cases cancelled with
    | true => exact ruled_abandon hrest
    | false => exact hnext rest hrest
  exact hruled.prepend hlook

/-- The last look rules on an approved result: it is cancelled or accepted as it is. -/
theorem ruled_lastLook (happroved : Approved progress)
    (h : (lastLook progress).Course events result) : Ruled events result := by
  refine ruled_look ?_ h
  intro rest hrest
  obtain ⟨rfl, rfl⟩ := Plan.course_done_iff.1 hrest
  refine ⟨by simp, ?_⟩
  rintro _ ⟨⟩
  exact happroved

/-- The bound on the passes is that of the retries, so that a pass is never followed by another one
when no more are allowed. -/
theorem ruled_rulePasses {more : Nat} {progress : Progress} {events : List Event}
    (herror : progress.error = none) (hmore : retriesLeft progress.run = more)
    (h : (rulePasses setup snapshot more progress).Course events result) :
    Ruled events result := by
  rw [rulePasses.eq_def] at h
  simp only [Plan.bind_eq, Plan.course_bind_iff] at h
  rcases h with ⟨ending, passing, rest, hpass, hrest, hevents⟩ | ⟨hcrash, hresult⟩
  · rw [hevents]
    refine Ruled.prepend ?_ (presents_of_pass hpass)
    cases ending with
    | abandoned next =>
        obtain ⟨hnil, hended⟩ := Plan.course_done_iff.1 hrest
        rw [hnil, hended]
        exact ⟨by simp, by simp⟩
    | accepted next => exact ruled_lastLook (approved_of_pass herror hpass) hrest
    | again next =>
        have hspent := FollowedBy.retriesLeft_eq ⟨passing, hpass⟩
        cases more with
        | zero => omega
        | succ more =>
            exact ruled_rulePasses ((error_of_pass hpass).trans herror) (by omega) hrest
  · rw [hresult]
    exact ⟨presents_of_pass hcrash, by simp⟩

/-- Nothing is presented while the snapshot is taken, whatever becomes of it. -/
theorem presents_of_ingest {repo : RepoRef} {ingested : Option (Except Failure Snapshot)}
    (h : (ingest setup repo run).Course events ingested) :
    ∀ event ∈ events, event.presents = false := by
  simp only [ingest, Plan.request, Plan.bind_eq, Plan.ask_bind, Plan.done_bind,
    Plan.course_ask_iff] at h
  obtain ⟨root, rest, hrest, rfl⟩ := h
  refine List.forall_mem_cons.2 ⟨rfl, ?_⟩
  cases root with
  | ok root =>
      simp only [Plan.course_ask_iff, Plan.pure_eq_done, Plan.course_done_iff] at hrest
      obtain ⟨tree, _, ⟨rfl, _⟩, rfl⟩ := hrest
      simp [Event.presents, Event.isProcessorCall]
  | failed error => simp [(Plan.course_done_iff.1 hrest).1]
  | timedOut => simp [(Plan.course_done_iff.1 hrest).1]
  | panicked => simp [(Plan.course_crash_iff.1 hrest).1]

/-- Until the last look nothing is presented. -/
theorem ruled_rule {source : Source} (h : (rule setup run source).Course events result) :
    Ruled events result := by
  cases source with
  | snapshot snapshot => exact ruled_rulePasses rfl rfl h
  | repository repo =>
      refine ruled_look ?_ h
      intro rest hrest
      rw [Plan.bind_eq, Plan.course_bind_iff] at hrest
      simp only [course_enter_iff] at hrest
      rcases hrest with ⟨_, _, tail, ⟨rfl, _⟩, htail, rfl⟩ | ⟨⟨_, ⟨⟩⟩, _⟩
      refine Ruled.prepend ?_ (by simp)
      rw [Plan.bind_eq, Plan.course_bind_iff] at htail
      rcases htail with ⟨ingested, taking, last, htaking, hlast, rfl⟩ | ⟨hcrash, rfl⟩
      · refine Ruled.prepend ?_ (presents_of_ingest htaking)
        cases ingested with
        | error failure => exact ruled_abandon hlast
        | ok snapshot => exact ruled_rulePasses rfl rfl hlast
      · exact ⟨presents_of_ingest hcrash, by simp⟩

end Rulings

/-! ## What is presented -/

section Presentation

variable {setup : Setup} {run : Run} {progress : Progress} {events : List Event}

/-- Lines that are recorded one after the other may be recorded at once. -/
theorem record_record (progress : Progress) (first rest : List StageEntry) :
    (progress.record first).record rest = progress.record (first ++ rest) := by
  simp [Progress.record]

/-- Post-processors may come to any outcomes. -/
theorem course_runProcessors_of {place : Nat} {names : List String}
    {outcomes : List (Outcome String Unit)} (hlength : outcomes.length = names.length) :
    (runProcessors place names progress).Course (processorEvents progress place outcomes)
      (some (progress.record (List.zipWith (postEntry progress.passes) names outcomes))) := by
  induction names generalizing place progress outcomes with
  | nil =>
      have hnil := List.eq_nil_of_length_eq_zero hlength
      subst hnil
      simp [runProcessors, processorEvents, Progress.record]
  | cons name rest ih =>
      cases outcomes with
      | nil => simp at hlength
      | cons outcome outcomes =>
          let recorded := progress.record [postEntry progress.passes name outcome]
          have hrest : (runProcessors (place + 1) rest recorded).Course
              (processorEvents recorded (place + 1) outcomes)
              (some (recorded.record (List.zipWith (postEntry recorded.passes) rest outcomes))) :=
            ih (Nat.succ.inj hlength)
          simp only [runProcessors, Plan.request, Plan.bind_eq, Plan.ask_bind, Plan.done_bind,
            Plan.course_ask_iff]
          rw [record_record] at hrest
          exact ⟨outcome, _, hrest, rfl⟩

/-- Post-processing meets exactly the lists of outcomes that have one for each post-processor. -/
theorem course_postProcess_iff {result : Option Progress} :
    (postProcess setup progress).Course events result ↔
      ∃ outcomes, outcomes.length = setup.postProcessors.length ∧
        events = processing setup progress.run ++ processorEvents progress 0 outcomes ∧
        result = some (progress.record
          (List.zipWith (postEntry progress.passes) setup.postProcessors outcomes)) := by
  constructor
  · exact course_postProcess
  · rintro ⟨outcomes, hlength, rfl, rfl⟩
    have hcourse : (runProcessors 0 setup.postProcessors progress).Course
        (processorEvents progress 0 outcomes) (some (progress.record
          (List.zipWith (postEntry progress.passes) setup.postProcessors outcomes))) :=
      course_runProcessors_of hlength
    unfold postProcess processing
    by_cases hempty : setup.postProcessors.isEmpty = true
    · rw [List.isEmpty_iff.1 hempty] at hcourse ⊢
      simpa [runProcessors] using hcourse
    · rw [if_neg hempty, if_neg hempty]
      simp only [Plan.bind_eq, Plan.course_bind_iff, course_enter_iff]
      exact .inl ⟨(), _, _, ⟨rfl, trivial⟩, hcourse, rfl⟩

/-- The presentation of an accepted result, if post-processors come to these outcomes. -/
def presentation (setup : Setup) (progress : Progress) (outcomes : List (Outcome String Unit)) :
    List Event :=
  .entered .accepted progress.run ::
    (processing setup progress.run ++ processorEvents progress 0 outcomes) ++
      [.entered .done progress.complete.run]

/-- The lines of post-processors with these outcomes. -/
def processorLines (setup : Setup) (progress : Progress) (outcomes : List (Outcome String Unit)) :
    List StageEntry :=
  List.zipWith (postEntry progress.passes) setup.postProcessors outcomes

/-- To close a survey is to complete it and to tell the observer. -/
theorem course_close_iff {result : Option Progress} :
    (close progress).Course events result ↔
      events = [.entered .done progress.complete.run] ∧ result = some progress.complete := by
  simp only [close, enter, Plan.request, Plan.bind_eq, Plan.ask_bind, Plan.done_bind,
    Plan.pure_eq_done, Plan.course_ask_iff, Plan.course_done_iff]
  constructor
  · rintro ⟨_, _, ⟨rfl, rfl⟩, rfl⟩
    exact ⟨rfl, rfl⟩
  · rintro ⟨rfl, rfl⟩
    exact ⟨(), [], ⟨rfl, rfl⟩, rfl⟩

/-- Whatever becomes of the post-processors, the survey is completed. -/
theorem course_present_iff {result : Option Progress} :
    (present setup (.accepted progress)).Course events result ↔
      ∃ outcomes, outcomes.length = setup.postProcessors.length ∧
        events = presentation setup progress outcomes ∧
        result = some (progress.complete.record (processorLines setup progress outcomes)) := by
  simp only [present, enter, Plan.request, Plan.bind_eq, Plan.ask_bind, Plan.done_bind,
    Plan.course_ask_iff, Plan.course_bind_iff, course_postProcess_iff, course_close_iff]
  constructor
  · rintro ⟨_, _, ⟨_, _, _, ⟨outcomes, hlength, rfl, ⟨⟩⟩, ⟨rfl, rfl⟩, rfl⟩ |
      ⟨⟨_, _, _, ⟨⟩⟩, _⟩, rfl⟩
    exact ⟨outcomes, hlength, rfl, rfl⟩
  · rintro ⟨outcomes, hlength, rfl, rfl⟩
    exact ⟨(), _, .inl ⟨_, _, _, ⟨outcomes, hlength, rfl, rfl⟩, ⟨rfl, rfl⟩, rfl⟩, rfl⟩

/-- Without post-processors the observer is told of the acceptance and then of the end. -/
theorem course_present_unprocessed :
    (present setup.unprocessed (.accepted progress)).Course
      [.entered .accepted progress.run, .entered .done progress.complete.run]
      (some progress.complete) := by
  rw [course_present_iff]
  refine ⟨[], rfl, rfl, ?_⟩
  simp [processorLines, Setup.unprocessed, Progress.record]

/-- Without post-processors every host sees the completed progress at the end. -/
theorem run_present_unprocessed {σ : Type} (host : Host σ) (state : σ) :
    ((present setup.unprocessed (.accepted progress)).run host state).1 = some progress.complete :=
  rfl

/-- The events of post-processors are nothing but their calls. -/
theorem isProcessorCall_of_mem_processorEvents {place : Nat}
    {outcomes : List (Outcome String Unit)} {event : Event}
    (h : event ∈ processorEvents progress place outcomes) : event.isProcessorCall = true := by
  obtain ⟨_, _, rfl⟩ := List.mem_map.1 h
  rfl

/-- The announcement of the post-processors is no call of one. -/
theorem processorCalls_processing : Event.processorCalls (processing setup run) = [] := by
  unfold processing
  split
  · rfl
  · rfl

/-- Each post-processor is called once, in order, on the same store and evaluation. -/
theorem processorCalls_presentation (outcomes : List (Outcome String Unit)) :
    Event.processorCalls (presentation setup progress outcomes) =
      processorEvents progress 0 outcomes := by
  have hcalls : Event.processorCalls (processorEvents progress 0 outcomes) =
      processorEvents progress 0 outcomes :=
    List.filter_eq_self.2 fun _ => isProcessorCall_of_mem_processorEvents
  have haccepted : Event.processorCalls [.entered .accepted progress.run] = [] := rfl
  have hdone : Event.processorCalls [.entered .done progress.complete.run] = [] := rfl
  rw [presentation, ← List.singleton_append]
  simp only [Event.processorCalls_append, haccepted, hdone, processorCalls_processing, hcalls,
    List.nil_append, List.append_nil]

/-- The only acceptance that the observer is told of is that of the presented result. -/
theorem accepted_mem_presentation {accepted : Run} {outcomes : List (Outcome String Unit)}
    (h : .entered .accepted accepted ∈ presentation setup progress outcomes) :
    accepted = progress.run := by
  have hcalls : .entered .accepted accepted ∉ processorEvents progress 0 outcomes := by
    intro hcall
    cases isProcessorCall_of_mem_processorEvents hcall
  have hprocessing : .entered .accepted accepted ∉ processing setup progress.run := by
    unfold processing
    split <;> simp
  simpa [presentation, hcalls, hprocessing] using h

/-- The line of a post-processor carries its outcome and the number of passes. -/
theorem mark_postEntry (pass : UInt32) (name : String) (outcome : Outcome String Unit) :
    (postEntry pass name outcome).mark = ⟨.postProcess, outcome.status, pass⟩ := by
  cases outcome <;> rfl

/-- There is one line for each post-processor, which tells what became of it. -/
theorem marks_processorLines {outcomes : List (Outcome String Unit)}
    (hlength : outcomes.length = setup.postProcessors.length) :
    (processorLines setup progress outcomes).map StageEntry.mark =
      outcomes.map fun outcome => ⟨.postProcess, outcome.status, progress.passes⟩ := by
  apply List.ext_getElem
  · simp [processorLines, hlength]
  · intro place hline houtcome
    simp [processorLines, mark_postEntry]

end Presentation

/-! ## With and without post-processors -/

section Processing

variable {setup : Setup} {run accepted : Run} {source : Source} {events : List Event}
  {result : Option Progress}

/-- What an accepted survey comes to, and the same one without post-processors.  They go the same
way to the acceptance, and end alike but for the lines of the post-processors. -/
structure Processed (setup : Setup) (run : Run) (source : Source) (accepted : Run)
    (way : List Event) (final : Progress) (outcomes : List (Outcome String Unit))
    (events : List Event) (result : Option Progress) : Prop where
  without : (carryOut setup.unprocessed run source).Course
    (way ++ [.entered .accepted accepted, .entered .done final.run]) (some final)
  status_eq : final.run.status = .completed
  approved : Approved final
  outcomes_length : outcomes.length = setup.postProcessors.length
  events_eq : events = way ++ (.entered .accepted accepted ::
    (processing setup accepted ++ processorEvents final 0 outcomes) ++ [.entered .done final.run])
  calls_eq : Event.processorCalls events = processorEvents final 0 outcomes
  result_eq : result = some (final.record (processorLines setup final outcomes))
  marks_eq : (processorLines setup final outcomes).map StageEntry.mark =
    outcomes.map fun outcome => ⟨.postProcess, outcome.status, final.passes⟩

/-- The way of an accepted survey leads to an approved result, which is then presented. -/
theorem exists_way (h : (carryOut setup run source).Course events result)
    (haccepted : .entered .accepted accepted ∈ events) :
    ∃ way progress outcomes, (rule setup run source).Course way (some (.accepted progress)) ∧
      progress.run = accepted ∧ outcomes.length = setup.postProcessors.length ∧
      events = way ++ presentation setup progress outcomes ∧
      result = some (progress.complete.record (processorLines setup progress outcomes)) := by
  have hway : ∀ {way ruling}, (rule setup run source).Course way ruling →
      .entered .accepted accepted ∉ way := by
    intro way ruling hrule hmem
    cases (ruled_rule hrule).presents_eq _ hmem
  rw [carryOut_eq, Plan.course_bind_iff] at h
  rcases h with ⟨ruling, way, rest, hrule, hrest, rfl⟩ | ⟨hcrash, rfl⟩
  · cases ruling with
    | ended progress =>
        obtain ⟨rfl, rfl⟩ := Plan.course_done_iff.1 hrest
        rw [List.append_nil] at haccepted
        exact absurd haccepted (hway hrule)
    | accepted progress =>
        obtain ⟨outcomes, hlength, rfl, rfl⟩ := course_present_iff.1 hrest
        have hpresented := (List.mem_append.1 haccepted).resolve_left (hway hrule)
        exact ⟨way, progress, outcomes, hrule, (accepted_mem_presentation hpresented).symm,
          hlength, rfl, rfl⟩
  · exact absurd haccepted (hway hcrash)

/-- Once a result is accepted, the post-processors may come to any outcomes. -/
theorem course_carryOut_of_rule {way : List Event} {progress : Progress}
    {outcomes : List (Outcome String Unit)}
    (hrule : (rule setup run source).Course way (some (.accepted progress)))
    (hlength : outcomes.length = setup.postProcessors.length) :
    (carryOut setup run source).Course (way ++ presentation setup progress outcomes)
      (some (progress.complete.record (processorLines setup progress outcomes))) := by
  rw [carryOut_eq, Plan.course_bind_iff]
  exact .inl ⟨_, way, _, hrule, course_present_iff.2 ⟨outcomes, hlength, rfl, rfl⟩, rfl⟩

/-- The survey with these outcomes is the one without post-processors, but for their calls and their
lines. -/
theorem processed_of_rule {way : List Event} {progress : Progress}
    {outcomes : List (Outcome String Unit)}
    (hrule : (rule setup run source).Course way (some (.accepted progress)))
    (hlength : outcomes.length = setup.postProcessors.length) :
    Processed setup run source progress.run way progress.complete outcomes
      (way ++ presentation setup progress outcomes)
      (some (progress.complete.record (processorLines setup progress outcomes))) where
  without := by
    rw [carryOut_eq, rule_unprocessed, Plan.course_bind_iff]
    exact .inl ⟨_, way, _, hrule, course_present_unprocessed, rfl⟩
  status_eq := rfl
  approved := by
    have happroved := (ruled_rule hrule).approved progress rfl
    exact ⟨happroved.error_eq, happroved.decision_eq, happroved.evaluation_isSome⟩
  outcomes_length := hlength
  events_eq := rfl
  calls_eq := by
    rw [Event.processorCalls_append, processorCalls_presentation,
      Event.processorCalls_eq_nil (ruled_rule hrule).presents_eq, List.nil_append]
    rfl
  result_eq := rfl
  marks_eq := marks_processorLines hlength

/-- A host that takes a survey along a way takes the survey without post-processors along it. -/
theorem run_unprocessed {σ : Type} {host : Host σ} {state : σ} {way rest : List Event}
    {progress : Progress} (hrule : (rule setup run source).Course way (some (.accepted progress)))
    (hevents : (carryOut setup run source).events host state = way ++ rest) :
    ((carryOut setup.unprocessed run source).run host state).1 = some progress.complete := by
  have hhost := Plan.course_run host (rule setup run source) state
  rw [carryOut_eq, Plan.events_bind] at hevents
  obtain ⟨-, hruling⟩ := hhost.unique hrule hevents
  rw [carryOut_eq, rule_unprocessed, Plan.run_bind]
  generalize (rule setup run source).run host state = ruled at hruling ⊢
  rcases ruled with ⟨ruling, after⟩
  subst hruling
  exact run_present_unprocessed host after

/-- Post-processors see an accepted survey and leave it alone.  Each of them is called once, in
order, on the final store and evaluation, and adds one line to the log, which tells of a success
exactly if it has succeeded; otherwise the survey is completed as it is without them.  They could
have come to any other outcomes in the same way, and a host that is asked for this survey completes
the one without post-processors with the same result. -/
theorem post_processing (h : (carryOut setup run source).Course events result)
    (haccepted : .entered .accepted accepted ∈ events) :
    ∃ way final outcomes, Processed setup run source accepted way final outcomes events result ∧
      (∀ others : List (Outcome String Unit), others.length = setup.postProcessors.length →
        ∃ events result, (carryOut setup run source).Course events result ∧
          Processed setup run source accepted way final others events result) ∧
      ∀ (σ : Type) (host : Host σ) (state : σ),
        (carryOut setup run source).events host state = events →
          ((carryOut setup.unprocessed run source).run host state).1 = some final := by
  obtain ⟨way, progress, outcomes, hrule, rfl, hlength, rfl, rfl⟩ := exists_way h haccepted
  refine ⟨way, progress.complete, outcomes, processed_of_rule hrule hlength, ?_, ?_⟩
  · intro others hothers
    exact ⟨_, _, course_carryOut_of_rule hrule hothers, processed_of_rule hrule hothers⟩
  · intro σ host state hevents
    exact run_unprocessed hrule hevents

end Processing

/-! ## Two post-processors -/

namespace TwoFiles

/-- The survey of the two files is accepted with its second run. -/
theorem accepted_mem_processedSurvey :
    .entered .accepted second.run ∈ processedSurvey.events processingHost 0 := by
  have hphase :
      (.accepted, second.run) ∈ Event.phases (processedSurvey.events processingHost 0) := by
    decide +kernel
  obtain ⟨event, hevent, hphase⟩ := List.mem_filterMap.1 hphase
  unfold Event.phase? at hphase
  split at hphase
  · cases hphase
    exact hevent
  · cases hphase

end TwoFiles

/-- The second post-processor panics, and the survey is completed as without the two. -/
theorem post_processing_two_files :
    ∃ way final outcomes,
      Processed TwoFiles.processedSetup TwoFiles.run (.snapshot TwoFiles.snapshot)
        TwoFiles.second.run way final outcomes
        (TwoFiles.processedSurvey.events TwoFiles.processingHost 0) (some TwoFiles.processed) ∧
      ((carryOut TwoFiles.processedSetup.unprocessed TwoFiles.run
        (.snapshot TwoFiles.snapshot)).run TwoFiles.processingHost 0).1 = some final ∧
      (TwoFiles.processed.log.filter fun entry => entry.stage = .postProcess).map (·.status) =
        [.success, .degraded] := by
  obtain ⟨way, final, outcomes, hprocessed, -, hhost⟩ :=
    post_processing
      (Plan.course_run_get TwoFiles.processingHost TwoFiles.processedSurvey 0 (by decide +kernel))
      TwoFiles.accepted_mem_processedSurvey
  exact ⟨way, final, outcomes, hprocessed, hhost Nat TwoFiles.processingHost 0 rfl,
    by decide +kernel⟩

end Survey
end CodeSurvey
