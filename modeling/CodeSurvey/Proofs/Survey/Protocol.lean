import CodeSurvey.Proofs.Survey.Rounds

/-!
# The protocol of a survey

At every place of its plan a survey stands in a phase, with its run, and with an outlook on its end:
undecided as long as it still looks whether its cancellation has been demanded, stopped once it has
found so, settled after the last look, and broken when a panic has escaped.  This file says once
what a survey can do from where it stands, and proves that it does nothing else.

## Main results

* `Survey.Moves`, `Survey.Ends`: what a survey can do, and how it can end.
* `Survey.follows_carryOut`: every survey follows this protocol.
* `Survey.Moves.isSound`: a run that has started keeps running within its retries.
-/

namespace CodeSurvey
namespace Survey

/-! ## The protocol -/

/-- What the end of a survey depends on: on what is still to come, on nothing any more because
cancellation has been honoured or can no longer be, or on nothing because a panic has escaped. -/
inductive Outlook where
  | undecided
  | stopped
  | settled
  | broken
  deriving DecidableEq

/-- Where a survey stands.  The phase is the last one that the observer has been told of, terminal
ones apart. -/
structure Standing where
  outlook : Outlook
  phase : Phase
  run : Run

/-- What a survey can do. -/
inductive Moves : Standing → Event → Standing → Prop where
  | called {standing : Standing} {event : Event} (hcall : event.isCall = true)
      (hcontained : event.escapes = false) (hunbroken : standing.outlook ≠ .broken) :
      Moves standing event standing
  | escaped {phase : Phase} {run : Run} {event : Event} (hcall : event.isCall = true)
      (hescapes : event.escapes = true) :
      Moves ⟨.undecided, phase, run⟩ event ⟨.broken, phase, run⟩
  | stopped {phase : Phase} {run : Run} :
      Moves ⟨.undecided, phase, run⟩ (.looked true) ⟨.stopped, phase, run⟩
  | wentOn {phase : Phase} {run : Run} :
      Moves ⟨.undecided, phase, run⟩ (.looked false) ⟨.undecided, phase, run⟩
  | settled {run : Run} :
      Moves ⟨.undecided, .evaluating, run⟩ (.looked false) ⟨.settled, .evaluating, run⟩
  | told {phase : Phase} {run : Run} (evaluation : Evaluation) :
      Moves ⟨.undecided, phase, run⟩ (.told evaluation) ⟨.undecided, phase, run⟩
  | worked {before phase : Phase} {run : Run}
      (hphase : phase ∈ [.ingesting, .analyzing, .fusing, .evaluating]) :
      Moves ⟨.undecided, before, run⟩ (.entered phase run) ⟨.undecided, phase, run⟩
  | retried {run : Run} (hopen : run.ceilingReached = false) (targets : Option TargetSet) :
      Moves ⟨.undecided, .evaluating, run⟩ (.entered .retrying (run.retried targets))
        ⟨.undecided, .retrying, run.retried targets⟩
  | presented {before phase : Phase} {run : Run} (hphase : phase ∈ [.accepted, .postProcessing]) :
      Moves ⟨.settled, before, run⟩ (.entered phase run) ⟨.settled, phase, run⟩
  | announced {standing : Standing} {phase : Phase} {run : Run} (hphase : phase.isTerminal = true)
      (hunbroken : standing.outlook ≠ .broken) : Moves standing (.entered phase run) standing

/-- Whether a progress is that of a run which has not failed. -/
structure Underway (run : Run) (progress : Progress) : Prop where
  run_eq : progress.run = run
  error_eq : progress.error = none

/-- A survey stays under way when lines are added to its log. -/
theorem Underway.record {run : Run} {progress : Progress} (h : Underway run progress)
    (entries : List StageEntry) : Underway run (progress.record entries) :=
  ⟨h.run_eq, h.error_eq⟩

/-- A survey stays under way when its store is replaced. -/
theorem Underway.withStore {run : Run} {progress : Progress} (h : Underway run progress)
    (store : Store) : Underway run { progress with store := store } :=
  ⟨h.run_eq, h.error_eq⟩

/-- A survey stays under way when it is evaluated. -/
theorem Underway.evaluated {run : Run} {progress : Progress} (h : Underway run progress)
    (evaluation : Evaluation) (decision : Decision) :
    Underway run (progress.evaluated evaluation decision) :=
  ⟨h.run_eq, h.error_eq⟩

/-- How a survey can end. -/
inductive Ends : Standing → Option Progress → Prop where
  | crashed {phase : Phase} {run : Run} : Ends ⟨.broken, phase, run⟩ none
  | failed {outlook : Outlook} {phase : Phase} {run : Run} {progress : Progress}
      (houtlook : outlook ∈ [.undecided, .stopped]) (hunderway : Underway run progress)
      (error : String) : Ends ⟨outlook, phase, run⟩ (some (progress.fail error))
  | completed {phase : Phase} {run : Run} {progress : Progress}
      (hunderway : Underway run progress) : Ends ⟨.settled, phase, run⟩ (some progress.complete)

/-- How a pass can end that has begun with a run. -/
inductive PassEnds (run : Run) : Standing → Option PassEnd → Prop where
  | crashed {phase : Phase} : PassEnds run ⟨.broken, phase, run⟩ none
  | abandoned {phase : Phase} {progress : Progress} (hunderway : Underway run progress)
      (error : String) :
      PassEnds run ⟨.stopped, phase, run⟩ (some (.abandoned (progress.fail error)))
  | accepted {progress : Progress} (hunderway : Underway run progress) :
      PassEnds run ⟨.undecided, .evaluating, run⟩ (some (.accepted progress))
  | again {progress : Progress} {targets : Option TargetSet} (hopen : run.ceilingReached = false)
      (hunderway : Underway (run.retried targets) progress) :
      PassEnds run ⟨.undecided, .retrying, run.retried targets⟩ (some (.again progress))

/-! ## What the protocol keeps -/

/-- The phases in which a survey can be with an outlook. -/
def Outlook.phases : Outlook → List Phase
  | .settled => [.evaluating, .accepted, .postProcessing]
  | _ => [.pending, .ingesting, .analyzing, .fusing, .evaluating, .retrying]

/-- What holds wherever a survey stands whose run has not spent more retries than it has. -/
structure Standing.IsSound (standing : Standing) : Prop where
  status_eq : standing.run.status = .running
  retryCount_le : standing.run.retryCount ≤ standing.run.maxRetries
  phase_mem : standing.phase ∈ standing.outlook.phases

/-- A sound standing is in no final phase. -/
theorem Standing.IsSound.phase_isTerminal {standing : Standing} (h : standing.IsSound) :
    standing.phase.isTerminal = false := by
  have hphase := h.phase_mem
  cases hphases : standing.phase with
  | done => cases houtlook : standing.outlook <;> simp [hphases, houtlook, Outlook.phases] at hphase
  | failed =>
      cases houtlook : standing.outlook <;> simp [hphases, houtlook, Outlook.phases] at hphase
  | _ => rfl

/-- A survey that is about to start has a sound standing. -/
theorem isSound_start (id : RunId) (maxRetries : UInt32) :
    Standing.IsSound ⟨.undecided, .pending, (Progress.start (.new id maxRetries)).run⟩ where
  status_eq := rfl
  retryCount_le := UInt32.zero_le
  phase_mem := by simp [Outlook.phases]

namespace Moves

variable {before after : Standing} {event : Event}

/-- No move changes how many retries a run may have. -/
theorem maxRetries_eq (h : Moves before event after) :
    after.run.maxRetries = before.run.maxRetries := by
  cases h <;> rfl

/-- No move takes a retry back. -/
theorem retryCount_le (h : Moves before event after) :
    before.run.retryCount ≤ after.run.retryCount := by
  cases h with
  | retried hopen targets =>
      rw [UInt32.le_iff_toNat_le, Run.retried_retryCount hopen]
      exact Nat.le_succ _
  | _ => exact UInt32.le_refl _

/-- Soundness is kept by every move. -/
theorem isSound (h : Moves before event after) (hbefore : before.IsSound) : after.IsSound := by
  obtain ⟨hstatus, hcount, hphase⟩ := hbefore
  cases h with
  | called | wentOn | told | announced => exact ⟨hstatus, hcount, hphase⟩
  | escaped | stopped => exact ⟨hstatus, hcount, hphase⟩
  | settled => exact ⟨hstatus, hcount, by simp [Outlook.phases]⟩
  | worked hworked =>
      refine ⟨hstatus, hcount, ?_⟩
      simp only [List.mem_cons, List.not_mem_nil, or_false] at hworked
      rcases hworked with rfl | rfl | rfl | rfl <;> simp [Outlook.phases]
  | retried hopen targets =>
      refine ⟨hstatus, ?_, by simp [Outlook.phases]⟩
      rw [UInt32.le_iff_toNat_le, Run.retried_retryCount hopen]
      exact Run.retryCount_lt_of_not_ceilingReached hopen
  | presented hpresented =>
      refine ⟨hstatus, hcount, ?_⟩
      simp only [List.mem_cons, List.not_mem_nil, or_false] at hpresented
      rcases hpresented with rfl | rfl <;> simp [Outlook.phases]

/-- Nothing more happens once a panic has escaped. -/
theorem outlook_ne_broken (h : Moves before event after) : before.outlook ≠ .broken := by
  cases h with
  | called hcall hcontained hunbroken => exact hunbroken
  | announced hphase hunbroken => exact hunbroken
  | escaped | stopped | wentOn | settled | told | worked | retried | presented => simp

/-- After the last look the end is settled. -/
theorem outlook_settled (h : Moves before event after) (hsettled : before.outlook = .settled) :
    after.outlook = .settled := by
  cases h <;> first | exact hsettled | rfl | cases hsettled

/-- Only a look that finds no cancellation demanded settles the end. -/
theorem outlook_ne_settled (h : Moves before event after) (hne : before.outlook ≠ .settled)
    (hevent : event ≠ .looked false) : after.outlook ≠ .settled := by
  cases h with
  | settled => exact absurd rfl hevent
  | escaped | stopped => simp
  | called | wentOn | told | announced | worked | retried | presented => exact hne

/-- A survey is broken once a panic has escaped. -/
theorem outlook_broken_iff (h : Moves before event after) :
    after.outlook = .broken ↔ before.outlook = .broken ∨ event.escapes = true := by
  have hentered : ∀ phase run, (Event.entered phase run).escapes = false := fun _ _ => rfl
  have htold : ∀ evaluation, (Event.told evaluation).escapes = false := fun _ => rfl
  have hlooked : ∀ cancelled, (Event.looked cancelled).escapes = false := fun _ => rfl
  cases h with
  | called hcall hcontained => simp [hcontained]
  | escaped hcall hescapes => simp [hescapes]
  | stopped | wentOn | settled => simp [hlooked]
  | told => simp [htold]
  | worked | retried | presented | announced => simp [hentered]

end Moves

section Paths

variable {before after : Standing} {events : List Event}

/-- A survey that is settled remains so. -/
theorem path_settled (h : Plan.Path Moves before events after)
    (hsettled : before.outlook = .settled) : after.outlook = .settled := by
  induction h with
  | nil => exact hsettled
  | cons move rest ih => exact ih (move.outlook_settled hsettled)

/-- Without a look that finds no demand to cancel, no survey becomes settled. -/
theorem path_ne_settled (h : Plan.Path Moves before events after)
    (hne : before.outlook ≠ .settled) (hevents : .looked false ∉ events) :
    after.outlook ≠ .settled := by
  induction h with
  | nil => exact hne
  | cons move rest ih =>
      rw [List.mem_cons, not_or] at hevents
      exact ih (move.outlook_ne_settled hne (Ne.symm hevents.1)) hevents.2

/-- A survey is broken exactly if a panic has escaped. -/
theorem path_broken_iff (h : Plan.Path Moves before events after) :
    after.outlook = .broken ↔
      before.outlook = .broken ∨ ∃ event ∈ events, event.escapes = true := by
  induction h with
  | nil => simp
  | cons move rest ih => rw [ih, move.outlook_broken_iff, or_assoc]; simp

end Paths

namespace Ends

variable {standing : Standing} {result : Option Progress}

/-- A survey comes to no result exactly if it is broken. -/
theorem eq_none_iff (h : Ends standing result) : result = none ↔ standing.outlook = .broken := by
  cases h with
  | crashed => simp
  | failed houtlook =>
      simp only [List.mem_cons, List.not_mem_nil, or_false] at houtlook
      rcases houtlook with rfl | rfl <;> simp
  | completed => simp

/-- A survey that ends with a result is completed if that was settled, and has failed otherwise. -/
theorem status_eq {final : Progress} (h : Ends standing (some final)) :
    final.run.status = if standing.outlook = .settled then .completed else .failed := by
  cases h with
  | failed houtlook =>
      simp only [List.mem_cons, List.not_mem_nil, or_false] at houtlook
      rcases houtlook with rfl | rfl <;> rfl
  | completed => rfl

/-- A survey has an error exactly if it has failed. -/
theorem error_isSome {final : Progress} (h : Ends standing (some final)) :
    final.error.isSome = true ↔ final.run.status = .failed := by
  cases h with
  | failed => exact ⟨fun _ => rfl, fun _ => rfl⟩
  | completed hunderway =>
      rw [show (Progress.complete _).error = none from hunderway.error_eq]
      exact ⟨nofun, nofun⟩

/-- The final progress has the retry counter of the last standing. -/
theorem retryCount_eq {final : Progress} (h : Ends standing (some final)) :
    final.run.retryCount = standing.run.retryCount := by
  cases h with
  | failed houtlook hunderway error =>
      rw [← hunderway.run_eq]
      rfl
  | completed hunderway =>
      rw [← hunderway.run_eq]
      rfl

end Ends

/-- What is left of a survey from which a panic has escaped is its crash. -/
theorem eq_crash_of_broken {plan : Plan Progress} {standing : Standing}
    (h : plan.Follows Moves Ends standing) (hbroken : standing.outlook = .broken) :
    plan = .crash := by
  cases plan with
  | done value => cases (Ends.eq_none_iff h).2 hbroken
  | crash => rfl
  | poll next =>
      obtain ⟨_, hmove, _⟩ := h true
      exact absurd hbroken hmove.outlook_ne_broken
  | ask request next =>
      obtain ⟨_, hmove, _⟩ := h request.anyAnswer
      exact absurd hbroken hmove.outlook_ne_broken

/-! ## The parts of a survey -/

section Parts

variable {setup : Setup} {snapshot : Snapshot} {progress : Progress} {phase : Phase} {run : Run}

/-- A plan of calls leaves a survey where it stands, unless it breaks it. -/
theorem follows_calls {α : Type} {plan : Plan α} (hplan : plan.Calls) (run : Run) :
    plan.Follows Moves
      (fun standing result => (standing = ⟨.undecided, phase, run⟩ ∧ result ≠ none) ∨
        (standing = ⟨.broken, phase, run⟩ ∧ result = none)) ⟨.undecided, phase, run⟩ := by
  refine Plan.Follows.simulate (fun broken standing =>
    standing = ⟨if broken then .broken else .undecided, phase, run⟩) hplan rfl ?_ ?_
  · rintro broken standing event after rfl hmove
    cases hmove with
    | answered hcall hcontained => exact ⟨_, .called hcall hcontained (by simp), rfl⟩
    | escaped hcall hescapes => exact ⟨_, .escaped hcall hescapes, rfl⟩
  · rintro broken standing result rfl hends
    cases broken with
    | false => exact .inl ⟨rfl, by simp [hends]⟩
    | true => exact .inr ⟨rfl, hends.2 rfl⟩

/-- After a plan of calls a survey goes on from where it stood. -/
theorem follows_calls_bind {α β : Type} {plan : Plan α} {next : α → Plan β}
    {ends : Standing → Option β → Prop} (hplan : plan.Calls)
    (hnext : ∀ value, (next value).Follows Moves ends ⟨.undecided, phase, run⟩)
    (hcrash : ends ⟨.broken, phase, run⟩ none) :
    (plan >>= next).Follows Moves ends ⟨.undecided, phase, run⟩ := by
  refine (follows_calls hplan run).bind ?_ ?_
  · rintro standing value (⟨rfl, _⟩ | ⟨_, ⟨⟩⟩)
    exact hnext value
  · rintro standing (⟨_, hne⟩ | ⟨rfl, _⟩)
    · exact absurd rfl hne
    · exact hcrash

/-- After a report a survey goes on from where the report leads. -/
theorem follows_enter {α : Type} {standing after : Standing} {next : Unit → Plan α}
    {ends : Standing → Option α → Prop} (hrun : progress.run = run)
    (hmove : Moves standing (.entered phase run) after)
    (hnext : (next ()).Follows Moves ends after) :
    (enter phase progress >>= next).Follows Moves ends standing := by
  subst hrun
  exact fun _ => ⟨after, hmove, hnext⟩

/-- Abandoning a survey that is not settled ends it. -/
theorem follows_abandon {outlook : Outlook} (houtlook : outlook ∈ [.undecided, .stopped])
    (hunderway : Underway run progress) (error : String) :
    (abandon progress error).Follows Moves Ends ⟨outlook, phase, run⟩ := by
  have hunbroken : outlook ≠ .broken := by
    rintro rfl
    simp at houtlook
  exact fun _ => ⟨_, .announced rfl hunbroken, .failed houtlook hunderway error⟩

/-- A part that may be cancelled keeps to the protocol if what follows the look does. -/
theorem follows_unlessCancelled {next : Plan PassEnd} (hunderway : Underway run progress)
    (hnext : next.Follows Moves (PassEnds run) ⟨.undecided, phase, run⟩) :
    (unlessCancelled progress next).Follows Moves (PassEnds run) ⟨.undecided, phase, run⟩ := by
  intro cancelled
  cases cancelled with
  | false => exact ⟨_, .wentOn, hnext⟩
  | true => exact ⟨_, .stopped, fun _ => ⟨_, .announced rfl (by simp), .abandoned hunderway _⟩⟩

/-- A retry is scheduled below the ceiling only. -/
theorem scheduleRetry_eq_ok {next : Run} {targets : Option TargetSet}
    (h : run.scheduleRetry targets = .ok next) :
    run.ceilingReached = false ∧ next = run.retried targets := by
  cases hceiling : run.ceilingReached with
  | true => simp [Run.scheduleRetry, hceiling] at h
  | false =>
      rw [Run.scheduleRetry_of_not_ceilingReached hceiling] at h
      exact ⟨rfl, (Except.ok.inj h).symm⟩

/-- Scheduling the next pass keeps to the protocol: the observer is told of the retry. -/
theorem follows_schedule (hunderway : Underway run progress) (evaluation : Evaluation)
    (decision : Decision) :
    (schedule evaluation decision progress).Follows Moves (PassEnds run)
      ⟨.undecided, .evaluating, run⟩ := by
  rw [schedule]
  split
  · exact PassEnds.accepted hunderway
  rename_i targets htargets
  split
  · exact PassEnds.accepted hunderway
  rename_i next hretry
  rw [hunderway.run_eq] at hretry
  obtain ⟨hopen, rfl⟩ := scheduleRetry_eq_ok hretry
  exact follows_enter rfl (.retried hopen targets) (PassEnds.again hopen ⟨rfl, hunderway.error_eq⟩)

/-- The evaluation of a pass keeps to the protocol. -/
theorem follows_evaluatePhase (hunderway : Underway run progress) (targets : Option TargetSet)
    (pass : UInt32) :
    (evaluatePhase setup targets pass progress).Follows Moves (PassEnds run)
      ⟨.undecided, phase, run⟩ := by
  rw [evaluatePhase]
  refine follows_enter hunderway.run_eq (.worked (by simp)) ?_
  refine follows_calls_bind Evaluator.calls_evaluate ?_ .crashed
  rintro ⟨store, evaluation⟩ _
  refine ⟨_, .told evaluation, ?_⟩
  exact follows_schedule (((hunderway.withStore store).record _).evaluated _ _) _ _

/-- The panics of tiers are contained. -/
theorem TierCalls.escapes_eq_false {before after : Unit} {event : Event}
    (h : TierCalls before event after) : event.escapes = false := by
  unfold TierCalls Event.isTierCall at h
  split at h
  · rfl
  · rfl
  · simp at h

/-- A fusion makes nothing but calls. -/
theorem calls_fuse (inputs : FusionInputs) (targets : Option TargetSet) (store : Store) :
    (setup.fuse inputs targets store).Calls := by
  refine Plan.Follows.simulate (fun _ broken => broken = false)
    Fusion.follows_fuse rfl ?_ ?_
  · rintro _ broken event _ rfl hcall
    exact ⟨false, .answered (TierCalls.isCall hcall) (TierCalls.escapes_eq_false hcall), rfl⟩
  · rintro _ broken result rfl hresult
    simp [hresult]

/-- The fusion of a pass keeps to the protocol. -/
theorem follows_fusePhase (hunderway : Underway run progress) (inputs : FusionInputs)
    (targets : Option TargetSet) (pass : UInt32) :
    (fusePhase setup inputs targets pass progress).Follows Moves (PassEnds run)
      ⟨.undecided, phase, run⟩ := by
  rw [fusePhase]
  refine follows_enter hunderway.run_eq (.worked (by simp)) ?_
  refine follows_calls_bind (calls_fuse inputs targets progress.store) ?_ .crashed
  rintro ⟨store, report⟩
  have hfused := (hunderway.withStore store).record
    [⟨.fuse, .success, pass, fuseDetail report⟩]
  exact follows_unlessCancelled hfused (follows_evaluatePhase hfused targets pass)

/-- The analysis of a pass keeps to the protocol. -/
theorem follows_analyzePhase (hunderway : Underway run progress) :
    (analyzePhase setup snapshot progress).Follows Moves (PassEnds run)
      ⟨.undecided, phase, run⟩ := by
  rw [analyzePhase]
  refine follows_enter hunderway.run_eq (.worked (by simp)) ?_
  intro replies
  refine ⟨_, .called rfl rfl (by simp), ?_⟩
  have hanalyzed := hunderway.record (analysis setup snapshot progress replies).2
  exact follows_unlessCancelled hanalyzed (follows_fusePhase hanalyzed _ _ _)

/-- A pass keeps to the protocol. -/
theorem follows_pass (hunderway : Underway run progress) :
    (pass setup snapshot progress).Follows Moves (PassEnds run) ⟨.undecided, phase, run⟩ :=
  follows_unlessCancelled hunderway (follows_analyzePhase hunderway)

/-! ## After acceptance -/

/-- Post-processors add to the log, and their panics are contained. -/
theorem follows_runProcessors (place : Nat) (names : List String)
    (hunderway : Underway run progress) :
    (runProcessors place names progress).Follows Moves
      (fun standing result => standing = ⟨.settled, phase, run⟩ ∧
        ∃ after, Underway run after ∧ result = some after) ⟨.settled, phase, run⟩ := by
  induction names generalizing place progress with
  | nil => exact ⟨rfl, progress, hunderway, rfl⟩
  | cons name rest ih =>
      intro outcome
      exact ⟨_, .called rfl rfl (by simp), ih (place + 1) (hunderway.record _)⟩

/-- Post-processing keeps a settled survey settled and under way. -/
theorem follows_postProcess (hunderway : Underway run progress) :
    (postProcess setup progress).Follows Moves
      (fun standing result => (∃ phase, standing = ⟨.settled, phase, run⟩) ∧
        ∃ after, Underway run after ∧ result = some after) ⟨.settled, phase, run⟩ := by
  rw [postProcess]
  split
  · exact ⟨⟨phase, rfl⟩, progress, hunderway, rfl⟩
  · refine follows_enter hunderway.run_eq (.presented (by simp)) ?_
    refine (follows_runProcessors 0 setup.postProcessors hunderway).strengthen ?_
    rintro _ standing result _ ⟨rfl, hresult⟩
    exact ⟨⟨_, rfl⟩, hresult⟩

/-- Finishing a survey keeps to the protocol: after the last look it is settled or stopped. -/
theorem follows_finish (hunderway : Underway run progress) :
    (finish setup progress).Follows Moves Ends ⟨.undecided, .evaluating, run⟩ := by
  intro cancelled
  cases cancelled with
  | true => exact ⟨_, .stopped, follows_abandon (by simp) hunderway _⟩
  | false =>
      refine ⟨_, .settled, follows_enter hunderway.run_eq (.presented (by simp)) ?_⟩
      refine (follows_postProcess hunderway).bind ?_ ?_
      · rintro standing after ⟨⟨phase, rfl⟩, _, hafter, ⟨⟩⟩
        exact follows_enter rfl (.announced rfl (by simp)) (Ends.completed hafter)
      · rintro standing ⟨_, _, _, ⟨⟩⟩

/-! ## The whole survey -/

/-- Each pass that is followed by another one spends a retry, so the induction is on those left. -/
theorem follows_drive (hunderway : Underway run progress) :
    (drive setup snapshot progress).Follows Moves Ends ⟨.undecided, phase, run⟩ := by
  induction hleft : retriesLeft run using Nat.strongRecOn generalizing run progress phase with
  | ind left ih =>
      rw [drive_eq]
      refine (follows_pass hunderway).bind ?_ ?_
      · rintro standing ending hends
        cases hends with
        | abandoned hbefore error => exact .failed (by simp) hbefore error
        | accepted hafter => exact follows_finish hafter
        | @again next targets hopen hafter =>
            have hspent := retriesLeft_retried hopen targets
            exact ih _ (by omega) hafter rfl
      · rintro standing hends
        cases hends
        exact .crashed

/-- The survey of a repository keeps to the protocol from its pending run on. -/
theorem follows_execute (repo : RepoRef) (run : Run) :
    (execute setup repo run).Follows Moves Ends
      ⟨.undecided, .pending, (Progress.start run).run⟩ := by
  have hstart : Underway (Progress.start run).run (Progress.start run) := ⟨rfl, rfl⟩
  intro cancelled
  cases cancelled with
  | true => exact ⟨_, .stopped, follows_abandon (by simp) hstart _⟩
  | false =>
      refine ⟨_, .wentOn, follows_enter rfl (.worked (by simp)) ?_⟩
      refine follows_calls_bind (calls_ingest setup repo _) ?_ .crashed
      intro ingested
      cases ingested with
      | error failure => exact follows_abandon (by simp) hstart _
      | ok snapshot => exact follows_drive ⟨rfl, rfl⟩

/-- Every survey follows the protocol. -/
theorem follows_carryOut (run : Run) (source : Source) :
    (carryOut setup run source).Follows Moves Ends
      ⟨.undecided, .pending, (Progress.start run).run⟩ := by
  cases source with
  | repository repo => exact follows_execute repo run
  | snapshot snapshot => exact follows_drive ⟨rfl, rfl⟩

end Parts

end Survey
end CodeSurvey
