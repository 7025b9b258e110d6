import CodeSurvey.Proofs.Service.Fairness

/-!
# Escaping panics

A panic is contained in the calls of an analysis, in the ladders and in post-processors.  It escapes
from all other calls: from making the repository available, from embedding summaries for their
scores, and from the judge.  An escaping panic crashes a survey, and nothing else does; then there
is no outcome to be published, and the report of the run never becomes final.

## Main results

* `Service.course_carryOut`: a survey crashes if and only if a panic escapes, and is completed or
  fails otherwise.
* `Service.panic_isolation`: surveys and the runs of a service under panics.
* `Service.panic_not_isolated`: a panic that is not isolated.
-/

namespace CodeSurvey

open Survey (carryOut Source)

namespace Service

/-- A survey crashes if and only if a panic escapes, and is completed or fails otherwise. -/
theorem course_carryOut {setup : Setup} {run : Run} {source : Source}
    {events : List CodeSurvey.Event} {result : Option Progress}
    (h : (carryOut setup run source).Course events result) :
    (result = none ↔ ∃ event ∈ events, event.escapes = true) ∧
      ∀ final, result = some final →
        final.run.status = .completed ∨ final.run.status = .failed := by
  obtain ⟨standing, hpath, hends⟩ := (Survey.follows_carryOut run source).exists_path h
  refine ⟨?_, ?_⟩
  · rw [hends.eq_none_iff, Survey.path_broken_iff hpath]
    simp
  · rintro final rfl
    rw [hends.status_eq]
    split
    · exact .inl rfl
    · exact .inr rfl

/-- A started run comes to its final report if and only if no panic escapes from it. -/
theorem exists_finished_iff {service started : Service} {id : RunId} {repo : RepoRef}
    {overrides : Overrides} {hasRuntime : Bool} {now : Int}
    (hstart : service.start id repo overrides hasRuntime now = .ok started) {future : Future}
    (hregular : future.Regular id) :
    (∃ moment report, (started.after (future.before moment)).status id = some report ∧
      report.isFinished = true) ↔
        ∀ moment, ¬ Escapes (started.after (future.before moment)) id (future moment).2 := by
  obtain ⟨_, _, rfl⟩ := start_eq_ok hstart
  have hgoing := going_started (service.setupFor overrides) id
    (service.setupFor overrides).settings.policy.maxRetries repo now
  rw [← view_register service] at hgoing
  constructor
  · rintro ⟨other, report, hreport, hfinished⟩ moment hescapes
    rw [not_finished_of_escapes hgoing hregular hescapes other hreport] at hfinished
    cases hfinished
  · intro hcontained
    have hregistered : ((service.register (service.setupFor overrides) id repo now).status
        id).isSome = true := by
      rw [← view_report, view_register]
      rfl
    obtain ⟨moment, report, _, hreport, hfinished⟩ :=
      exists_finished hgoing hregistered nofun hregular hcontained
    exact ⟨moment, report, hreport, hfinished⟩

/-- Panics are isolated unless they escape.  A survey in which none escapes is completed or fails,
and a run that keeps taking steps and from which none escapes comes to its final report.  An
escaping panic crashes the survey, and the report of the run never becomes final. -/
theorem panic_isolation (setup : Setup) :
    (∀ run source events result, (carryOut setup run source).Course events result →
      (result = none ↔ ∃ event ∈ events, event.escapes = true) ∧
        ∀ final, result = some final →
          final.run.status = .completed ∨ final.run.status = .failed) ∧
      ∀ (history : List (Int × Event)) id repo overrides hasRuntime now started,
        ((new setup).after history).start id repo overrides hasRuntime now = .ok started →
          ∀ future : Future, future.Regular id →
            ((∃ moment report, (started.after (future.before moment)).status id = some report ∧
              report.isFinished = true) ↔
                ∀ moment,
                  ¬ Escapes (started.after (future.before moment)) id (future moment).2) := by
  refine ⟨?_, ?_⟩
  · intro run source events result hcourse
    exact course_carryOut hcourse
  · intro history id repo overrides hasRuntime now started hstart future hregular
    exact exists_finished_iff hstart hregular

namespace OneRun

/-- A host in which every call panics whose panic is contained. -/
def panickingHost : Host Unit where
  cancelled _ := false
  answer
    | .analyze .., state => (⟨.panicked, .panicked, .panicked⟩, state)
    | .postProcess .., state => (.panicked, state)
    | request, state => (replies request, state)

/-- What the only run carries out, with a post-processor. -/
def plan : Plan Progress :=
  carryOut { setup with postProcessors := ["index"] } (.new id 0) (.repository repo)

end OneRun

/-- Stages and post-processors that panic do not keep a survey from its end, and the only run of a
service comes to its final report. -/
theorem panic_isolation_one_run :
    (∃ final, (OneRun.plan.run OneRun.panickingHost ()).1 = some final ∧
      (final.run.status = .completed ∨ final.run.status = .failed)) ∧
    ∃ started, (new OneRun.setup).start OneRun.id OneRun.repo Overrides.none true 0 = .ok started ∧
      ∃ moment report, (started.after (OneRun.future.before moment)).status OneRun.id =
        some report ∧ report.isFinished = true := by
  refine ⟨?_, ?_⟩
  · have hsome : (OneRun.plan.run OneRun.panickingHost ()).1.isSome = true := by decide +kernel
    obtain ⟨final, hfinal⟩ := Option.isSome_iff_exists.1 hsome
    have hcourse := Plan.course_run OneRun.panickingHost OneRun.plan ()
    exact ⟨final, hfinal, ((panic_isolation _).1 _ _ _ _ hcourse).2 final hfinal⟩
  · have hok :
        ((new OneRun.setup).start OneRun.id OneRun.repo Overrides.none true 0).isOk = true := by
      decide +kernel
    cases hstart : (new OneRun.setup).start OneRun.id OneRun.repo Overrides.none true 0 with
    | error error =>
        rw [hstart] at hok
        cases hok
    | ok started =>
        have hfinishes := (panic_isolation OneRun.setup).2 [] _ _ _ _ _ started hstart
          OneRun.future OneRun.future_regular
        exact ⟨started, rfl, hfinishes.2 fun _ => OneRun.not_escapes _⟩

/-! ## A panic that is not isolated -/

namespace OneFile

def a : EntityId := ⟨"a.py"⟩

def snapshot : Snapshot := ⟨"repository", [⟨a, "a.py", "alpha"⟩]⟩

/-- The file has a summary and an embedding, and embedding the summary for its score panics. -/
def host : Host Unit where
  cancelled _ := false
  answer
    | .analyze .., state =>
        (⟨.ok [⟨a, "Reads the configuration file.", 1, .file, []⟩], .ok .empty,
          .ok [⟨a, [1, 0]⟩]⟩, state)
    | .embedTexts .., state => (fun _ => .panicked, state)
    | request, state => (OneRun.replies request, state)

end OneFile

/-- A survey does not always come to an outcome: a panic of the embedder in a scoring crashes it. -/
theorem panic_not_isolated :
    ¬ ∀ setup run source events result, (carryOut setup run source).Course events result →
      ∃ final, result = some final ∧
        (final.run.status = .completed ∨ final.run.status = .failed) := by
  intro h
  have hcourse := Plan.course_run OneFile.host
    (carryOut OneRun.setup (.new OneRun.id 0) (.snapshot OneFile.snapshot)) ()
  have hcrash : ((carryOut OneRun.setup (.new OneRun.id 0) (.snapshot OneFile.snapshot)).run
      OneFile.host ()).1.isNone = true := by
    decide +kernel
  obtain ⟨final, hfinal, _⟩ := h _ _ _ _ _ hcourse
  rw [hfinal] at hcrash
  cases hcrash

end Service
end CodeSurvey
