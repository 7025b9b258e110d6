import CodeSurvey.Proofs.Survey.HandOver
import CodeSurvey.Proofs.Survey.StableEdges

/-!
# What the stage log tells

A survey writes its log at four places of a loop that can be left in between.  Read from the start,
the log is nevertheless the history of the survey: the snapshot, if one was taken, then a block of
five lines for each pass, of which only the last block can be cut short, and then a line for each
post-processor.  A line of an analysis stage tells what became of the call of this stage.

## Main results

* `StageAnswers.marks`, `passMarks`: the lines of a pass and of many passes.
* `Survey.Logged`: what the log tells between two passes.
* `Survey.LogAccount`: what it tells at the end.
* `Survey.stage_log`: the log of every survey from which no panic escapes.
-/

namespace CodeSurvey

/-! ## Stages and their lines -/

/-- A line of the log without its detail. -/
structure Mark where
  stage : Stage
  status : StageStatus
  pass : UInt32
  deriving DecidableEq

/-- The line of an entry. -/
def StageEntry.mark (entry : StageEntry) : Mark := ⟨entry.stage, entry.status, entry.pass⟩

namespace Outcome

variable {ε α : Type}

/-- The status of a stage by what became of its call. -/
def status : Outcome ε α → StageStatus
  | .ok _ => .success
  | .failed _ => .degraded
  | .timedOut => .degraded
  | .panicked => .degraded

/-- What a stage contributes by what became of its call. -/
def contribution (empty : α) : Outcome ε α → α
  | .ok value => value
  | .failed _ => empty
  | .timedOut => empty
  | .panicked => empty

end Outcome

/-- What the analysis stages of a pass are asked for and answer.  Without snippets the embedder is
not called. -/
structure StageAnswers where
  snippets : List Snippet
  replies : AnalysisReplies

/-- The lines of the analysis stages of a pass. -/
def StageAnswers.marks (answers : StageAnswers) (pass : UInt32) : List Mark := [
  ⟨.summarize, answers.replies.summaries.status, pass⟩,
  ⟨.parse, answers.replies.graph.status, pass⟩,
  ⟨.embed, if answers.snippets.isEmpty then .success else answers.replies.embeddings.status, pass⟩]

/-- The lines of a pass that was evaluated. -/
def StageAnswers.evaluatedMarks (answers : StageAnswers) (pass : UInt32) : List Mark :=
  answers.marks pass ++ [⟨.fuse, .success, pass⟩, ⟨.evaluate, .success, pass⟩]

/-- The lines of passes that were evaluated, the first of which has number zero. -/
def passMarks (passes : List StageAnswers) : List Mark :=
  passes.zipIdx.flatMap fun (answers, place) => answers.evaluatedMarks (.ofNat place)

/-- A further pass adds its block of lines, numbered by the passes before it. -/
theorem passMarks_concat (passes : List StageAnswers) (answers : StageAnswers) :
    passMarks (passes ++ [answers]) =
      passMarks passes ++ answers.evaluatedMarks (.ofNat passes.length) := by
  simp [passMarks, List.zipIdx_append]

/-! ## Answers that are logged -/

/-- The answer of the analysis stages of a pass, or of the post-processor at a place. -/
inductive LoggedAnswer where
  | analysis (answers : StageAnswers)
  | postProcessor (place : Nat) (outcome : Outcome String Unit)

namespace Event

/-- The answer for which the log has lines. -/
def logged? : Event → Option LoggedAnswer
  | .answered (.analyze _ _ snippets) replies => some (.analysis ⟨snippets, replies⟩)
  | .answered (.postProcess place _ _) outcome => some (.postProcessor place outcome)
  | _ => none

/-- The answers for which the log has lines, in order. -/
def logged (events : List Event) : List LoggedAnswer := events.filterMap logged?

@[simp]
theorem logged_nil : logged [] = [] :=
  rfl

@[simp]
theorem logged_append (first rest : List Event) :
    logged (first ++ rest) = logged first ++ logged rest :=
  List.filterMap_append

@[simp]
theorem logged_looked_cons (cancelled : Bool) (events : List Event) :
    logged (.looked cancelled :: events) = logged events :=
  rfl

@[simp]
theorem logged_entered_cons (phase : Phase) (run : Run) (events : List Event) :
    logged (entered phase run :: events) = logged events :=
  rfl

@[simp]
theorem logged_told_cons (evaluation : Evaluation) (events : List Event) :
    logged (told evaluation :: events) = logged events :=
  rfl

/-- Events without lines of their own leave the log as it is. -/
theorem logged_eq_nil {events : List Event} (h : ∀ event ∈ events, event.logged? = none) :
    logged events = [] :=
  List.filterMap_eq_nil_iff.2 h

/-- The ladders of a fusion have no lines in the log. -/
theorem logged?_of_isTierCall {event : Event} (h : event.isTierCall = true) :
    event.logged? = none := by
  unfold isTierCall at h
  split at h
  · rfl
  · rfl
  · cases h

/-- The calls of an evaluation have no lines in the log. -/
theorem logged?_of_isGateCall {event : Event} (h : event.isGateCall = true) :
    event.logged? = none := by
  unfold isGateCall at h
  split at h
  · rfl
  · rfl
  · rfl
  · rfl
  · cases h

end Event

namespace Survey

section Log

variable {setup : Setup} {snapshot : Snapshot} {run : Run} {progress : Progress}
  {events : List Event}

/-! ## The analysis stages -/

/-- Whether each stage contributes what became of its own call, as far as it is in scope. -/
structure Contributes (targets : Option TargetSet) (answers : StageAnswers)
    (results : Stages.Results) : Prop where
  summaries : results.summaries =
    (answers.replies.summaries.contribution []).filter fun record => inScope targets record.id
  graph : results.graph = answers.replies.graph.contribution .empty
  embeddings : results.embeddings =
    if answers.snippets.isEmpty then []
    else (answers.replies.embeddings.contribution []).filter fun record =>
      inScope targets record.id

/-- Each of the three stages adds one line, with the status of its own answer. -/
theorem marks_stages (pass : UInt32) (targets : Option TargetSet) (answers : StageAnswers) :
    [(Stages.summarize setup pass targets answers.replies.summaries).2,
      (Stages.parse setup pass answers.replies.graph).2,
      (Stages.embed setup pass targets answers.snippets answers.replies.embeddings).2].map
        StageEntry.mark = answers.marks pass := by
  have hsummaries : (Stages.summarize setup pass targets answers.replies.summaries).2.mark =
      ⟨.summarize, answers.replies.summaries.status, pass⟩ := by
    cases answers.replies.summaries <;> rfl
  have hgraph : (Stages.parse setup pass answers.replies.graph).2.mark =
      ⟨.parse, answers.replies.graph.status, pass⟩ := by
    cases answers.replies.graph <;> rfl
  have hembeddings : (Stages.embed setup pass targets answers.snippets
      answers.replies.embeddings).2.mark =
        ⟨.embed, if answers.snippets.isEmpty then .success
          else answers.replies.embeddings.status, pass⟩ := by
    rw [Stages.embed]
    split
    · rfl
    · cases answers.replies.embeddings <;> rfl
  simp only [List.map_cons, List.map_nil, hsummaries, hgraph, hembeddings]
  rfl

/-- Each of the three stages contributes its own answer, restricted to the scope, or nothing. -/
theorem contributes_stages (pass : UInt32) (targets : Option TargetSet) (answers : StageAnswers) :
    Contributes targets answers
      ⟨(Stages.summarize setup pass targets answers.replies.summaries).1,
        (Stages.parse setup pass answers.replies.graph).1,
        (Stages.embed setup pass targets answers.snippets answers.replies.embeddings).1⟩ := by
  refine ⟨?_, ?_, ?_⟩
  · cases answers.replies.summaries <;> rfl
  · cases answers.replies.graph <;> rfl
  · simp only [Stages.embed]
    split
    · rfl
    · cases answers.replies.embeddings <;> rfl

/-- The analysis stages of a pass are asked once, and each contributes its own answer and adds its
own line. -/
theorem course_analyze {targets : Option TargetSet} {pass : UInt32}
    {analyzed : Option (Stages.Results × List StageEntry)}
    (h : (Stages.analyze setup snapshot targets pass).Course events analyzed) :
    ∃ answers results entries, analyzed = some (results, entries) ∧
      Event.logged events = [.analysis answers] ∧
      entries.map StageEntry.mark = answers.marks pass ∧
      Contributes targets answers results := by
  simp only [Stages.analyze, Plan.request, Plan.bind_eq, Plan.ask_bind, Plan.done_bind,
    Plan.pure_eq_done, Plan.course_ask_iff, Plan.course_done_iff] at h
  obtain ⟨replies, _, ⟨rfl, rfl⟩, rfl⟩ := h
  let answers : StageAnswers := ⟨Stages.snippets snapshot targets, replies⟩
  exact ⟨answers, _, _, rfl, rfl, marks_stages pass targets answers,
    contributes_stages pass targets answers⟩

/-! ## The lines of a pass -/

variable (snapshot progress) in
/-- What the analysis stages of a pass are asked for, with these replies. -/
def stageAnswers (replies : AnalysisReplies) : StageAnswers :=
  ⟨Stages.snippets snapshot progress.run.targets, replies⟩

/-- After the analysis the log has the lines of the three stages more. -/
theorem marks_analyzed (replies : AnalysisReplies) :
    (analyzed setup snapshot progress replies).log.map StageEntry.mark =
      progress.log.map StageEntry.mark ++
        (stageAnswers snapshot progress replies).marks progress.passes := by
  rw [analyzed, Progress.record, List.map_append]
  congr 1
  exact marks_stages progress.passes progress.run.targets (stageAnswers snapshot progress replies)

/-- After the fusion the log has a line for it, too. -/
theorem marks_fused (replies : AnalysisReplies) (steps : List Fusion.Step) :
    (fused setup snapshot progress replies steps).log.map StageEntry.mark =
      progress.log.map StageEntry.mark ++
        ((stageAnswers snapshot progress replies).marks progress.passes ++
          [⟨.fuse, .success, progress.passes⟩]) := by
  have hlast : (fused setup snapshot progress replies steps).log.map StageEntry.mark =
      (analyzed setup snapshot progress replies).log.map StageEntry.mark ++
        [⟨.fuse, .success, progress.passes⟩] := List.map_append
  rw [hlast, marks_analyzed, List.append_assoc]

/-- After the evaluation the block of lines of the pass is complete. -/
theorem marks_assessed (found : Findings) :
    (assessed setup snapshot progress found).log.map StageEntry.mark =
      progress.log.map StageEntry.mark ++
        (stageAnswers snapshot progress found.replies).evaluatedMarks progress.passes := by
  have hlast : (assessed setup snapshot progress found).log.map StageEntry.mark =
      (fused setup snapshot progress found.replies found.steps).log.map StageEntry.mark ++
        [⟨.evaluate, .success, progress.passes⟩] := List.map_append
  rw [hlast, marks_fused]
  simp [StageAnswers.evaluatedMarks]

/-- The analysis of a pass is asked for once, and its answer is logged. -/
theorem logged_analysisEvents (replies : AnalysisReplies) :
    Event.logged (analysisEvents snapshot progress replies) =
      [.analysis (stageAnswers snapshot progress replies)] :=
  rfl

/-- No line is added when a survey is stopped. -/
theorem logged_stopEvents : Event.logged (stopEvents progress) = [] :=
  rfl

/-- Nothing that happens in the course of a fusion is logged by itself. -/
theorem Fuses.logged_eq {replies : AnalysisReplies} {steps : List Fusion.Step}
    {calls : List Event} (h : Fuses setup snapshot progress replies steps calls) :
    Event.logged (fusionEvents progress calls) = [] := by
  have hcalls : ∀ event ∈ calls, event.logged? = none :=
    Fusion.follows_fuse.forall_mem (fun _ _ _ => Event.logged?_of_isTierCall) h.course
  simp [fusionEvents, Event.logged_eq_nil hcalls]

/-- Nothing that happens in the course of an evaluation is logged by itself. -/
theorem logged_gradingEvents {replies : AnalysisReplies} {steps : List Fusion.Step}
    {calls : List Event} {result : Option (Store × Evaluation)}
    (h : (grading setup snapshot progress replies steps).Course calls result) :
    Event.logged (gradingEvents progress calls) = [] := by
  have hcalls : ∀ event ∈ calls, event.logged? = none :=
    Evaluator.follows_evaluate.forall_mem (fun _ _ _ => Event.logged?_of_isGateCall) h
  simp [gradingEvents, Event.logged_eq_nil hcalls]

/-- A pass that comes to an evaluation has one logged answer, that of its analysis. -/
theorem Evaluates.logged_eq {found : Findings}
    (h : Evaluates setup snapshot progress found events) :
    Event.logged events = [.analysis (stageAnswers snapshot progress found.replies)] := by
  cases h with
  | told hfuses hgrades =>
      simp [logged_analysisEvents, hfuses.logged_eq, logged_gradingEvents hgrades]

/-! ## The lines between passes -/

/-- What the log tells before a pass: after its opening lines it has the lines of the passes that
were evaluated, and these are counted. -/
structure Logged (opening : List Mark) (rounds : List Round) (progress : Progress)
    (passes : List StageAnswers) : Prop where
  answers : Event.logged (Round.eventsOf rounds) = passes.map .analysis
  log : progress.log.map StageEntry.mark = opening ++ passMarks passes
  count : progress.passes = .ofNat passes.length

/-- Before the first pass the log has its opening lines alone. -/
theorem logged_start {entries : List StageEntry} :
    Logged (entries.map StageEntry.mark) [] ((Progress.start run).record entries) [] where
  answers := rfl
  log := by simp [Progress.record, Progress.start, passMarks]
  count := rfl

variable {opening : List Mark} {rounds : List Round} {passes : List StageAnswers}

/-- The lines after an evaluation are those of one pass more. -/
theorem Logged.marks_assessed (h : Logged opening rounds progress passes) (found : Findings) :
    (assessed setup snapshot progress found).log.map StageEntry.mark =
      opening ++ passMarks (passes ++ [stageAnswers snapshot progress found.replies]) := by
  rw [Survey.marks_assessed, h.log, h.count, passMarks_concat, List.append_assoc]

/-- An evaluation is counted. -/
theorem Logged.count_assessed (h : Logged opening rounds progress passes) (found : Findings) :
    (assessed setup snapshot progress found).passes =
      .ofNat (passes ++ [stageAnswers snapshot progress found.replies]).length := by
  rw [List.length_append, List.length_singleton, UInt32.ofNat_add, ← h.count]
  rfl

/-- A pass that is followed by another one adds one block of lines and is counted. -/
theorem Logged.again (h : Logged opening rounds progress passes) {next : Progress}
    (hpass : (pass setup snapshot progress).Course events (some (.again next))) :
    ∃ passes, Logged opening (rounds ++ [⟨progress, events⟩]) next passes := by
  cases passTrace hpass with
  | @again found events targets hevaluates hopen hnext =>
      refine ⟨passes ++ [stageAnswers snapshot progress found.replies], ?_, ?_, ?_⟩
      · simp [h.answers, hevaluates.logged_eq]
      · exact h.marks_assessed found
      · exact h.count_assessed found

/-! ## The lines at the end -/

/-- How the lines of a last pass can be cut short. -/
inductive Cut (pass : UInt32) : List StageAnswers → List Mark → Prop where
  | before : Cut pass [] []
  | afterEmbed (answers : StageAnswers) : Cut pass [answers] (answers.marks pass)
  | afterFuse (answers : StageAnswers) :
      Cut pass [answers] (answers.marks pass ++ [⟨.fuse, .success, pass⟩])

/-- What the log of a survey tells of its passes and of what came after them: a cancelled survey may
have a last pass that is cut short, and a completed one has a line for each post-processor. -/
inductive LogAccount (setup : Setup) (opening : List Mark) (events : List Event)
    (final : Progress) : Prop where
  | cancelled {passes last : List StageAnswers} {lines : List Mark}
      (hcut : Cut (.ofNat passes.length) last lines)
      (hanswers : Event.logged events = (passes ++ last).map .analysis)
      (hlog : final.log.map StageEntry.mark = opening ++ passMarks passes ++ lines)
      (hcount : final.passes = .ofNat passes.length)
      (hlooked : .looked true ∈ events)
      (hfailed : final.run.status = .failed ∧ final.error = some Failure.cancelled.message)
  | completed {passes : List StageAnswers} {outcomes : List (Outcome String Unit)}
      {entries : List StageEntry}
      (hanswers : Event.logged events = passes.map .analysis ++
        outcomes.zipIdx.map fun (outcome, place) => .postProcessor place outcome)
      (houtcomes : outcomes.length = setup.postProcessors.length)
      (hlog : final.log =
        entries ++ List.zipWith (postEntry (.ofNat passes.length)) setup.postProcessors outcomes)
      (hentries : entries.map StageEntry.mark = opening ++ passMarks passes)
      (hcount : final.passes = .ofNat passes.length)
      (hcompleted : final.run.status = .completed)

/-- Events without lines may come before those that the log accounts for. -/
theorem LogAccount.prepend {final : Progress} (h : LogAccount setup opening events final)
    {first : List Event} (hfirst : Event.logged first = []) :
    LogAccount setup opening (first ++ events) final := by
  cases h with
  | cancelled hcut hanswers hlog hcount hlooked hfailed =>
      exact .cancelled hcut (by simp [hfirst, hanswers]) hlog hcount
        (List.mem_append_right _ hlooked) hfailed
  | completed hanswers houtcomes hlog hentries hcount hcompleted =>
      exact .completed (by simp [hfirst, hanswers]) houtcomes hlog hentries hcount hcompleted

/-- Each post-processor is called in its place, and its outcome is logged. -/
theorem logged_processorEvents (place : Nat) (outcomes : List (Outcome String Unit)) :
    Event.logged (processorEvents progress place outcomes) =
      (outcomes.zipIdx place).map fun (outcome, place) => .postProcessor place outcome := by
  rw [processorEvents, Event.logged, List.filterMap_map, ← List.filterMap_eq_map]
  rfl

/-- The announcement of the post-processors has no line. -/
theorem logged_processing : Event.logged (processing setup run) = [] := by
  rw [processing]
  split <;> rfl

/-- A finished survey has been stopped, or has a line for each post-processor. -/
theorem Logged.finish (h : Logged opening rounds progress passes) {found : Findings}
    {passing finishing : List Event} {result : Option Progress}
    (hevaluates : Evaluates setup snapshot progress found passing)
    (hfinish : (finish setup (assessed setup snapshot progress found)).Course finishing result) :
    ∃ final, result = some final ∧
      LogAccount setup opening (Round.eventsOf rounds ++ (passing ++ finishing)) final := by
  have hcount : (assessed setup snapshot progress found).passes =
      .ofNat (passes ++ [stageAnswers snapshot progress found.replies]).length :=
    h.count_assessed found
  cases finishCourse hfinish with
  | stopped =>
      refine ⟨_, rfl, .cancelled .before ?_ ?_ hcount (by simp [stopEvents]) ⟨rfl, rfl⟩⟩
      · simp [h.answers, hevaluates.logged_eq, logged_stopEvents]
      · rw [List.append_nil]
        exact h.marks_assessed found
  | completed hduring =>
      obtain ⟨outcomes, houtcomes, rfl, hprocessed⟩ := course_postProcess hduring
      rw [Option.some.inj hprocessed, hcount]
      refine ⟨_, rfl, .completed ?_ houtcomes rfl (h.marks_assessed found) hcount rfl⟩
      simp [h.answers, hevaluates.logged_eq, logged_processing, logged_processorEvents]

/-- A survey that is closed by a last pass from which no panic escapes has accounted for its
passes. -/
theorem Logged.closes (h : Logged opening rounds progress passes) {last : List Event}
    {result : Option Progress} (hcloses : Closes setup snapshot progress last result)
    (hcontained : ∀ event ∈ last, event.escapes = false) :
    ∃ final, result = some final ∧
      LogAccount setup opening (Round.eventsOf rounds ++ last) final := by
  cases hcloses with
  | crashed hpass => exact absurd rfl (course_pass_ne_none hpass hcontained)
  | accepted hpass hfinish =>
      cases passTrace hpass with
      | accepted hevaluates hsettle => exact h.finish hevaluates hfinish
  | abandoned hpass =>
      refine ⟨_, rfl, ?_⟩
      cases passTrace hpass with
      | unstarted =>
          refine .cancelled .before ?_ ?_ h.count (by simp [stopEvents]) ⟨rfl, rfl⟩
          · simp [h.answers, logged_stopEvents]
          · rw [List.append_nil]
            exact h.log
      | analyzed replies =>
          refine .cancelled (.afterEmbed (stageAnswers snapshot progress replies)) ?_ ?_ h.count
            (by simp [stopEvents]) ⟨rfl, rfl⟩
          · simp [h.answers, logged_analysisEvents, logged_stopEvents]
          · rw [← h.log, ← h.count]
            exact marks_analyzed replies
      | @fused replies steps fusing hfuses =>
          refine .cancelled (.afterFuse (stageAnswers snapshot progress replies)) ?_ ?_ h.count
            (by simp [stopEvents]) ⟨rfl, rfl⟩
          · simp [h.answers, logged_analysisEvents, hfuses.logged_eq, logged_stopEvents]
          · rw [← h.log, ← h.count]
            exact marks_fused replies steps

/-- The log accounts for the passes of every survey of a snapshot from which no panic escapes. -/
theorem logAccount_of_drive {entries : List StageEntry} {result : Option Progress}
    (h : (drive setup snapshot ((Progress.start run).record entries)).Course events result)
    (hcontained : ∀ event ∈ events, event.escapes = false) :
    ∃ final, result = some final ∧
      LogAccount setup (entries.map StageEntry.mark) events final := by
  obtain ⟨rounds, before, last, ⟨passes, hlogged⟩, hcloses, hevents⟩ :=
    course_drive_of
      (fun rounds progress => ∃ passes, Logged (entries.map StageEntry.mark) rounds progress passes)
      (fun _ _ _ _ ⟨_, hearlier⟩ hpass => hearlier.again hpass) ⟨[], logged_start⟩ h
  have hsplit : events = Round.eventsOf rounds ++ last := hevents
  subst hsplit
  exact hlogged.closes hcloses fun event hevent =>
    hcontained event (List.mem_append_right _ hevent)

/-! ## Whole surveys -/

/-- Whether the survey of a repository takes a snapshot on its way. -/
def TakesSnapshot (setup : Setup) (repo : RepoRef) (run : Run) (events : List Event) : Prop :=
  ∃ taking rest snapshot,
    (ingest setup repo (Progress.start run).run).Course taking (some (.ok snapshot)) ∧
      events = takingEvents run taking ++ rest

/-- What the log of a survey tells: nothing, if a snapshot had to be taken and was not, or whether
it was taken and what came of it. -/
inductive StageLog (setup : Setup) (run : Run) (events : List Event) :
    Source → Progress → Prop where
  | untaken {repo : RepoRef} {final : Progress}
      (huntaken : ¬TakesSnapshot setup repo run events) (hlog : final.log = [])
      (hfailed : final.run.status = .failed) :
      StageLog setup run events (.repository repo) final
  | taken {repo : RepoRef} {final : Progress} (htaken : TakesSnapshot setup repo run events)
      (haccount : LogAccount setup [⟨.ingest, .success, 0⟩] events final) :
      StageLog setup run events (.repository repo) final
  | given {snapshot : Snapshot} {final : Progress} (haccount : LogAccount setup [] events final) :
      StageLog setup run events (.snapshot snapshot) final

/-- No stage is asked for anything while the snapshot is taken. -/
theorem logged_takingEvents {repo : RepoRef} {taking : List Event}
    {result : Option (Except Failure Snapshot)}
    (h : (ingest setup repo (Progress.start run).run).Course taking result) :
    Event.logged (takingEvents run taking) = [] := by
  simp only [ingest, Plan.request, Plan.bind_eq, Plan.ask_bind, Plan.done_bind,
    Plan.course_ask_iff] at h
  obtain ⟨root, rest, hrest, rfl⟩ := h
  cases root with
  | ok root =>
      simp only [Plan.course_ask_iff, Plan.pure_eq_done, Plan.course_done_iff] at hrest
      obtain ⟨tree, _, ⟨rfl, _⟩, rfl⟩ := hrest
      rfl
  | failed error =>
      obtain ⟨rfl, _⟩ := Plan.course_done_iff.1 hrest
      rfl
  | timedOut =>
      obtain ⟨rfl, _⟩ := Plan.course_done_iff.1 hrest
      rfl
  | panicked =>
      obtain ⟨rfl, _⟩ := Plan.course_crash_iff.1 hrest
      rfl

/-- A survey that could not take a snapshot takes none. -/
theorem not_takesSnapshot {repo : RepoRef} {taking rest : List Event} {failure : Failure}
    (h : (ingest setup repo (Progress.start run).run).Course taking (some (.error failure))) :
    ¬TakesSnapshot setup repo run (takingEvents run taking ++ rest) := by
  rintro ⟨others, more, snapshot, hothers, hsame⟩
  have htails : taking ++ rest = others ++ more := by simpa [takingEvents] using hsame
  obtain ⟨_, hresults⟩ := h.unique hothers htails
  cases hresults

/-- The stage log accounts for a survey from which no panic escapes, and a line of an analysis stage
tells what became of the call of this stage and what the stage contributes. -/
theorem stage_log {source : Source} {result : Option Progress}
    (h : (carryOut setup run source).Course events result)
    (hcontained : ∀ event ∈ events, event.escapes = false) :
    (∃ final, result = some final ∧ StageLog setup run events source final) ∧
      ∀ snapshot targets pass calls analyzed,
        (Stages.analyze setup snapshot targets pass).Course calls analyzed →
          ∃ answers results entries, analyzed = some (results, entries) ∧
            Event.logged calls = [.analysis answers] ∧
            entries.map StageEntry.mark = answers.marks pass ∧
            Contributes targets answers results := by
  refine ⟨?_, fun snapshot targets pass calls analyzed => course_analyze⟩
  cases source with
  | snapshot snapshot =>
      have hdrive : (drive setup snapshot ((Progress.start run).record [])).Course events result :=
        h
      obtain ⟨final, rfl, haccount⟩ := logAccount_of_drive hdrive hcontained
      exact ⟨final, rfl, .given haccount⟩
  | repository repo =>
      cases executeCourse h with
      | stopped =>
          refine ⟨_, rfl, .untaken ?_ rfl rfl⟩
          rintro ⟨_, _, _, _, hsame⟩
          cases hsame
      | refused htaking => exact ⟨_, rfl, .untaken (not_takesSnapshot htaking) rfl rfl⟩
      | @crashed taking hcrash =>
          have htaking : ∀ event ∈ taking, event.escapes = false := fun event hevent =>
            hcontained event (List.mem_cons_of_mem _ (List.mem_cons_of_mem _ hevent))
          exact absurd rfl (course_ingest_ne_none hcrash htaking)
      | surveyed htaking hdrive =>
          obtain ⟨final, rfl, haccount⟩ := logAccount_of_drive hdrive fun event hevent =>
            hcontained event (List.mem_append_right _ hevent)
          exact ⟨final, rfl, .taken ⟨_, _, _, htaking, rfl⟩
            (haccount.prepend (logged_takingEvents htaking))⟩

end Log

/-! ## Two passes and two post-processors -/

namespace TwoFiles

def processedSetup : Setup := { setup with postProcessors := ["report", "export"] }

/-- The host of two files that import each other, whose second post-processor panics. -/
def processingHost : Host Nat where
  cancelled := importHost.cancelled
  answer
    | .postProcess place _ _, analyses => (if place = 0 then .ok () else .panicked, analyses)
    | request, analyses => importHost.answer request analyses

/-- The panic of the post-processor is contained. -/
theorem escapes_processingHost (plan : Plan α) (analyses : Nat) :
    ∀ event ∈ plan.events processingHost analyses, event.escapes = false := by
  apply Plan.forall_mem_events
  · intro cancelled
    rfl
  · intro request analyses
    cases request with
    | embedTexts texts limit =>
        simp [Event.escapes, processingHost, importHost, host, Evaluator.panicked]
    | _ => rfl

def processedSurvey : Plan Progress := carryOut processedSetup run (.snapshot snapshot)

/-- The survey at its end. -/
def processed : Progress :=
  (processedSurvey.run processingHost 0).1.get (by decide +kernel)

end TwoFiles

/-- The embedder fails in the second pass, and the second post-processor panics; all other lines
tell of successes. -/
theorem stage_log_two_files :
    LogAccount TwoFiles.processedSetup []
        (TwoFiles.processedSurvey.events TwoFiles.processingHost 0) TwoFiles.processed ∧
      TwoFiles.processed.log.map StageEntry.mark = [
        ⟨.summarize, .success, 0⟩, ⟨.parse, .success, 0⟩, ⟨.embed, .success, 0⟩,
        ⟨.fuse, .success, 0⟩, ⟨.evaluate, .success, 0⟩,
        ⟨.summarize, .success, 1⟩, ⟨.parse, .success, 1⟩, ⟨.embed, .degraded, 1⟩,
        ⟨.fuse, .success, 1⟩, ⟨.evaluate, .success, 1⟩,
        ⟨.postProcess, .success, 2⟩, ⟨.postProcess, .degraded, 2⟩] := by
  obtain ⟨final, hfinal, hlog⟩ :=
    (stage_log
      (Plan.course_run_get TwoFiles.processingHost TwoFiles.processedSurvey 0 (by decide +kernel))
      (TwoFiles.escapes_processingHost _ 0)).1
  have hsame : TwoFiles.processed = final := Option.some.inj hfinal
  cases hlog with
  | given haccount => exact ⟨hsame ▸ haccount, by decide +kernel⟩

end Survey
end CodeSurvey
