import CodeSurvey.Proofs.Survey.RetryBudget
import CodeSurvey.Proofs.Survey.SelectivePass
import CodeSurvey.Rehearsal.World
import Mathlib.Data.List.Forall2

/-!
# From one pass to the next

An evaluation says what the next pass is made for, and the stages of that pass are asked for just
that: the summarizer for the targets, the parser for the whole snapshot, and the embedder for the
beginnings of the files in scope, unless there are none.  No other part of a pass asks the
collaborators of the analysis for anything.

## Main results

* `Event.analysisCalls`: the calls of the three stages; a rehearsal makes just these.
* `Rehearsal.analyze_calls`: a rehearsal makes the calls for which the request of a pass stands.
* `Survey.StageCalls`: the calls of a pass with given targets.
* `Survey.HandedOver`: the targets of a pass by what the round before has told.
* `Survey.target_hand_over`: both hold of every pass that starts analyzing, and the strategies that
  are not the caller's own leave no selective pass without targets.
-/

namespace CodeSurvey

/-! ## Calls of the analysis stages -/

/-- A call of a collaborator that looks at a snapshot. -/
inductive AnalysisCall where
  | summarize (snapshot : Snapshot) (targets : Option TargetSet)
  | parse (snapshot : Snapshot)
  | embed (snippets : List Snippet)

/-- The calls for which a request stands.  Without snippets the embedder is not called. -/
def Request.analysisCalls : Request → List AnalysisCall
  | .analyze snapshot targets snippets =>
      [.summarize snapshot targets, .parse snapshot] ++
        if snippets.isEmpty then [] else [.embed snippets]
  | _ => []

namespace Rehearsal

/-- What a rehearsal keeps of a call. -/
def noted : AnalysisCall → Call
  | .summarize _ targets => .summarize targets
  | .parse snapshot => .parse snapshot.files.length
  | .embed snippets => .embedSnippets snippets

/-- What a reply does on the side is not noted as a call. -/
theorem acted_calls {α : Type} (script : Script) (reply : Reply α) (world : World) :
    (script.acted reply world).calls = world.calls := by
  rw [Script.acted]
  split <;> rfl

/-- A rehearsal makes the calls for which a request stands, and keeps them. -/
theorem analyze_calls (script : Script) (now : Nat) (snapshot : Snapshot)
    (targets : Option TargetSet) (snippets : List Snippet) (world : World) :
    (script.analyze now snapshot targets snippets world).2.2.calls =
      ((Request.analyze snapshot targets snippets).analysisCalls.map fun call =>
        (now, noted call)).reverse ++ world.calls := by
  simp only [Script.analyze, Request.analysisCalls]
  split
  · simp only [acted_calls, World.log]
    rfl
  · simp only [acted_calls, World.log]
    rfl

end Rehearsal

namespace Event

/-- The calls of the analysis stages, in order of the requests. -/
def analysisCalls (events : List Event) : List AnalysisCall :=
  events.flatMap fun
    | .looked _ => []
    | .answered request _ => request.analysisCalls

@[simp]
theorem analysisCalls_nil : analysisCalls [] = [] :=
  rfl

@[simp]
theorem analysisCalls_append (first rest : List Event) :
    analysisCalls (first ++ rest) = analysisCalls first ++ analysisCalls rest :=
  List.flatMap_append

@[simp]
theorem analysisCalls_looked_cons (cancelled : Bool) (events : List Event) :
    analysisCalls (.looked cancelled :: events) = analysisCalls events :=
  rfl

@[simp]
theorem analysisCalls_entered_cons (phase : Phase) (run : Run) (events : List Event) :
    analysisCalls (entered phase run :: events) = analysisCalls events :=
  rfl

@[simp]
theorem analysisCalls_told_cons (evaluation : Evaluation) (events : List Event) :
    analysisCalls (told evaluation :: events) = analysisCalls events :=
  rfl

/-- Only the request of an analysis stands for these calls. -/
theorem analysisCalls_eq_nil {events : List Event} (h : ∀ event ∈ events, event.analysis? = none) :
    analysisCalls events = [] := by
  rw [analysisCalls, List.flatMap_eq_nil_iff]
  intro event hevent
  cases event with
  | looked cancelled => rfl
  | answered request answer =>
      cases request with
      | analyze snapshot targets snippets => cases h _ hevent
      | _ => rfl

/-- A ladder asks for no analysis. -/
theorem analysis?_of_isTierCall {event : Event} (h : event.isTierCall = true) :
    event.analysis? = none := by
  unfold isTierCall at h
  split at h
  · rfl
  · rfl
  · cases h

/-- An evaluation asks for no analysis. -/
theorem analysis?_of_isGateCall {event : Event} (h : event.isGateCall = true) :
    event.analysis? = none := by
  unfold isGateCall at h
  split at h
  · rfl
  · rfl
  · rfl
  · rfl
  · cases h

end Event

namespace Survey

variable {setup : Setup} {snapshot : Snapshot} {run : Run} {progress : Progress}
  {events : List Event}

/-! ## The calls of a pass -/

/-- Whether a snippet is the beginning of a file. -/
structure Begins (file : SourceFile) (snippet : Snippet) : Prop where
  id : snippet.id = file.id
  code : snippet.code.toList = file.content.toList.take 2000

/-- The calls of the analysis stages in a pass with these targets. -/
inductive StageCalls (snapshot : Snapshot) (targets : Option TargetSet) :
    List AnalysisCall → Prop where
  | outOfScope (hscope : ∀ file ∈ snapshot.files, inScope targets file.id = false) :
      StageCalls snapshot targets [.summarize snapshot targets, .parse snapshot]
  | embedded {snippets : List Snippet}
      (hscope : ∃ file ∈ snapshot.files, inScope targets file.id = true)
      (hsnippets : List.Forall₂ Begins
        (snapshot.files.filter fun file => inScope targets file.id) snippets) :
      StageCalls snapshot targets
        [.summarize snapshot targets, .parse snapshot, .embed snippets]

/-- There is one snippet for each file in scope, in order, which is the beginning of the file. -/
theorem forall₂_begins_snippets (snapshot : Snapshot) (targets : Option TargetSet) :
    List.Forall₂ Begins (snapshot.files.filter fun file => inScope targets file.id)
      (Stages.snippets snapshot targets) := by
  rw [Stages.snippets, List.forall₂_map_right_iff, Snapshot.filesInScope, List.forall₂_same]
  intro file _
  exact ⟨rfl, String.toList_ofList⟩

/-- The one request of an analysis stands for the calls of its targets. -/
theorem stageCalls_analyze (snapshot : Snapshot) (targets : Option TargetSet) :
    StageCalls snapshot targets (Request.analyze snapshot targets
      (Stages.snippets snapshot targets)).analysisCalls := by
  rw [Request.analysisCalls]
  have hempty : (Stages.snippets snapshot targets).isEmpty = true ↔
      ∀ file ∈ snapshot.files, inScope targets file.id = false := by
    simp [Stages.snippets, Snapshot.filesInScope, List.isEmpty_iff]
  split
  · rename_i hnone
    exact .outOfScope (hempty.1 hnone)
  · rename_i hsome
    rw [hempty] at hsome
    refine .embedded ?_ (forall₂_begins_snippets snapshot targets)
    simpa using hsome

/-- An analysis makes the calls for which its request stands. -/
theorem analysisCalls_analysisEvents (snapshot : Snapshot) (progress : Progress)
    (replies : AnalysisReplies) :
    Event.analysisCalls (analysisEvents snapshot progress replies) =
      (Request.analyze snapshot progress.run.targets
        (Stages.snippets snapshot progress.run.targets)).analysisCalls := by
  simp [analysisEvents, Event.analysisCalls, Request.analysisCalls]

/-- A fusion calls no analysis stage. -/
theorem Fuses.analysisCalls_eq {replies : AnalysisReplies} {steps : List Fusion.Step}
    {calls : List Event} (h : Fuses setup snapshot progress replies steps calls) :
    Event.analysisCalls (fusionEvents progress calls) = [] := by
  have hcalls : ∀ event ∈ calls, event.analysis? = none :=
    Fusion.follows_fuse.forall_mem (fun _ _ _ => Event.analysis?_of_isTierCall) h.course
  simp [fusionEvents, Event.analysisCalls_eq_nil hcalls]

/-- An evaluation calls no analysis stage. -/
theorem analysisCalls_gradingEvents {replies : AnalysisReplies} {steps : List Fusion.Step}
    {calls : List Event} {result : Option (Store × Evaluation)}
    (h : (grading setup snapshot progress replies steps).Course calls result) :
    Event.analysisCalls (gradingEvents progress calls) = [] := by
  have hcalls : ∀ event ∈ calls, event.analysis? = none :=
    Evaluator.follows_evaluate.forall_mem (fun _ _ _ => Event.analysis?_of_isGateCall) h
  simp [gradingEvents, Event.analysisCalls_eq_nil hcalls]

/-- A pass that comes to an evaluation calls the analysis stages once, for its own targets. -/
theorem Evaluates.analysisCalls_eq {found : Findings}
    (h : Evaluates setup snapshot progress found events) :
    Event.analysisCalls events = (Request.analyze snapshot progress.run.targets
      (Stages.snippets snapshot progress.run.targets)).analysisCalls := by
  cases h with
  | told hfuses hgrades =>
      simp [analysisCalls_analysisEvents, hfuses.analysisCalls_eq,
        analysisCalls_gradingEvents hgrades]

/-- A pass is stopped before it has asked for anything, or asks for its analysis once. -/
theorem analysisCalls_of_passTrace {result : Option PassEnd}
    (h : PassTrace setup snapshot progress events result) :
    events = stopEvents progress ∨ Event.analysisCalls events =
      (Request.analyze snapshot progress.run.targets
        (Stages.snippets snapshot progress.run.targets)).analysisCalls := by
  have hanalysis := analysisCalls_analysisEvents snapshot progress
  cases h with
  | unstarted => exact .inl rfl
  | analyzed replies => exact .inr (by simp [hanalysis, stopEvents])
  | fused hfuses => exact .inr (by simp [hanalysis, hfuses.analysisCalls_eq, stopEvents])
  | crashed hfuses hcrash =>
      refine .inr ?_
      simp [hanalysis, hfuses.analysisCalls_eq, analysisCalls_gradingEvents hcrash]
  | accepted hevaluates hsettle => exact .inr hevaluates.analysisCalls_eq
  | again hevaluates hopen hnext => exact .inr (by simp [hevaluates.analysisCalls_eq])

/-! ## The targets of a pass -/

/-- The targets of a pass, by the round before it and the decision that was taken there. -/
inductive HandedOver (run : Run) (progress : Progress) : List Round → Prop where
  | first (htargets : progress.run.targets = run.targets) : HandedOver run progress []
  | everything {earlier : List Round} {round : Round} {evaluation : Evaluation}
      (htold : round.events.filterMap Event.evaluation? = [evaluation])
      (hevaluation : progress.evaluation = some evaluation)
      (hdecision : progress.decision = some .retryAll)
      (htargets : progress.run.targets = none) : HandedOver run progress (earlier ++ [round])
  | selected {earlier : List Round} {round : Round} {evaluation : Evaluation}
      {targets : TargetSet}
      (htold : round.events.filterMap Event.evaluation? = [evaluation])
      (hevaluation : progress.evaluation = some evaluation)
      (hdecision : progress.decision = some .retrySubset)
      (htargets : progress.run.targets = some targets)
      (hmem : ∀ id, targets.contains id = true ↔
        evaluation.low.contains id = true ∨ evaluation.missing.contains id = true) :
      HandedOver run progress (earlier ++ [round])

/-- The evaluations that the observer is told of are among the reports. -/
theorem evaluation?_reports (events : List Event) :
    (Event.reports events).filterMap Event.evaluation? = events.filterMap Event.evaluation? :=
  Event.filterMap_reports (fun _ => Event.evaluation?_of_not_isReport) events

/-- Before every pass the targets are those that the round before has handed over. -/
theorem Reaches.handedOver {rounds : List Round} (h : Reaches setup snapshot run rounds progress) :
    HandedOver run progress rounds := by
  cases h with
  | start entries => exact .first rfl
  | @again rounds before after events earlier round =>
      cases passCourse round with
      | again hfound hopen hnext hreports =>
          rename_i found targets
          have htold : events.filterMap Event.evaluation? = [found.evaluation] := by
            rw [← evaluation?_reports, hreports]
            rfl
          have hsettle : before.run.settle found.evaluation = found.evaluation.decision :=
            Run.settle_of_not_ceilingReached hopen
          cases hdecision : found.evaluation.decision with
          | accept => simp [hdecision, nextTargets] at hnext
          | retryAll =>
              rw [hdecision] at hnext hsettle
              exact .everything htold rfl (congrArg some hsettle) (Option.some.inj hnext).symm
          | retrySubset =>
              rw [hdecision] at hnext hsettle
              refine .selected htold rfl (congrArg some hsettle) (Option.some.inj hnext).symm ?_
              exact fun id => OrderedSet.contains_union _ _ id

/-! ## Selective passes -/

/-- A strategy that is not the caller's own makes no selective pass without targets. -/
theorem Reaches.targets_nonempty {rounds : List Round}
    (h : Reaches setup snapshot run rounds progress) (hlater : rounds ≠ [])
    (hbuiltin : ∀ name, setup.evaluator.strategy ≠ .custom name) {targets : TargetSet}
    (htargets : progress.run.targets = some targets) : targets.isEmpty = false := by
  cases h with
  | start entries => exact absurd rfl hlater
  | again earlier round =>
      cases passCourse round with
      | again hfound hopen hnext hreports =>
          rename_i found next
          have hnow : next = some targets := htargets
          subst hnow
          obtain ⟨hdecision, rfl⟩ : found.evaluation.decision = .retrySubset ∧
              targets = found.evaluation.retryTargets := by
            cases hdecision : found.evaluation.decision <;> simp_all [nextTargets]
          obtain ⟨evaluating, _, hevaluate⟩ := hfound.evaluate
          have hfailing := Evaluator.retryTargets_of_retrySubset hbuiltin hevaluate hdecision
          simp only [OrderedMap.isEmpty_eq_false_iff] at hfailing ⊢
          rcases hfailing with ⟨id, hid⟩ | ⟨id, hid⟩
          · exact ⟨id, (OrderedSet.contains_union _ _ _).2 (.inr hid)⟩
          · exact ⟨id, (OrderedSet.contains_union _ _ _).2 (.inl hid)⟩

/-- The targets of a survey are handed over from pass to pass.  A pass that starts analyzing calls
the collaborators of the analysis for its targets, and for nothing else.  These are the run's own on
the first pass, and afterwards those that the decision of the round before asked for.  Unless the
strategy is the caller's own, later targets are never empty, and always stored. -/
theorem target_hand_over {rounds : List Round} {result : Option PassEnd}
    (hreaches : Reaches setup snapshot run rounds progress)
    (hpass : (pass setup snapshot progress).Course events result)
    (hstarted : .entered .analyzing progress.run ∈ events) :
    StageCalls snapshot progress.run.targets (Event.analysisCalls events) ∧
      HandedOver run progress rounds ∧
      ((∀ name, setup.evaluator.strategy ≠ .custom name) → rounds ≠ [] →
        ∀ targets, progress.run.targets = some targets →
          targets.isEmpty = false ∧
            ∀ id, targets.contains id = true → progress.store.contains id = true) := by
  refine ⟨?_, hreaches.handedOver, ?_⟩
  · rcases analysisCalls_of_passTrace (passTrace hpass) with rfl | hcalls
    · simp [stopEvents] at hstarted
    · rw [hcalls]
      exact stageCalls_analyze snapshot progress.run.targets
  · intro hbuiltin hlater targets htargets
    exact ⟨hreaches.targets_nonempty hlater hbuiltin htargets,
      (hreaches.aimed hlater htargets).stored⟩

/-- The second pass over two files is handed the second file, which is stored. -/
theorem target_hand_over_two_files :
    StageCalls TwoFiles.snapshot TwoFiles.second.run.targets (Event.analysisCalls
        ((pass TwoFiles.setup TwoFiles.snapshot TwoFiles.second).events TwoFiles.host 1)) ∧
      HandedOver TwoFiles.run TwoFiles.second [⟨.start TwoFiles.run,
        (pass TwoFiles.setup TwoFiles.snapshot (.start TwoFiles.run)).events TwoFiles.host 0⟩] ∧
      TwoFiles.second.run.targets = some (OrderedSet.ofElements [TwoFiles.b]) ∧
      TwoFiles.second.store.contains TwoFiles.b = true := by
  have hstarted : .entered .analyzing TwoFiles.second.run ∈
      (pass TwoFiles.setup TwoFiles.snapshot TwoFiles.second).events TwoFiles.host 1 :=
    List.mem_cons_of_mem _ List.mem_cons_self
  obtain ⟨hcalls, hhanded, hstored⟩ :=
    target_hand_over TwoFiles.reaches_second TwoFiles.course_second hstarted
  have hbuiltin : ∀ name, TwoFiles.setup.evaluator.strategy ≠ .custom name := nofun
  have htargets := TwoFiles.second_targets
  refine ⟨hcalls, hhanded, htargets, ?_⟩
  exact (hstored hbuiltin (List.cons_ne_nil _ _) _ htargets).2 TwoFiles.b (by decide)

end Survey
end CodeSurvey
