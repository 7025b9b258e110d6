import CodeSurvey.Proofs.Survey.Rounds

/-!
# The retry budget

Each retry is announced to the observer with the retry counter, and each evaluation as well.  So the
observer can count: a survey makes one evaluation more than it makes retries if it is completed, and
it never makes more retries than its run has left at the start.

## Main results

* `Survey.Paced`: the counters before each pass of a survey.
* `Survey.retry_budget`: the counters and the outcome at the end of every survey in which no panic
  escapes.
* `Survey.WithinBudget.toNat_passes`: the counter of passes tells the evaluations, unless it is too
  narrow.
-/

namespace CodeSurvey

/-! ## What the observer counts -/

namespace Event

/-- The evaluation that the observer is told of. -/
def evaluation? : Event → Option Evaluation
  | .answered (.evaluated evaluation) _ => some evaluation
  | _ => none

/-- The retry counter of a run whose retry the observer is told of. -/
def retry? : Event → Option Nat
  | .answered (.phase .retrying run) _ => some run.retryCount.toNat
  | _ => none

/-- The number of evaluations. -/
def evaluations (events : List Event) : Nat := (events.filterMap evaluation?).length

/-- The counters of the retries, in order. -/
def retries (events : List Event) : List Nat := events.filterMap retry?

/-- Only reports are counted. -/
theorem filterMap_reports {α : Type} {count? : Event → Option α}
    (h : ∀ event, event.isReport = false → count? event = none) (events : List Event) :
    (reports events).filterMap count? = events.filterMap count? := by
  rw [reports, List.filterMap_filter]
  congr 1
  funext event
  cases hreport : event.isReport with
  | true => rfl
  | false => simp [h event hreport]

/-- What is no report tells of no evaluation. -/
theorem evaluation?_of_not_isReport {event : Event} (h : event.isReport = false) :
    event.evaluation? = none := by
  unfold evaluation?
  split
  · simp [isReport] at h
  · rfl

/-- What is no report tells of no retry. -/
theorem retry?_of_not_isReport {event : Event} (h : event.isReport = false) :
    event.retry? = none := by
  unfold retry?
  split
  · simp [isReport] at h
  · rfl

/-- The evaluations can be counted in the reports alone. -/
theorem evaluations_reports (events : List Event) :
    evaluations (reports events) = evaluations events := by
  rw [evaluations, filterMap_reports fun _ => evaluation?_of_not_isReport, evaluations]

/-- The retries can be counted in the reports alone. -/
theorem retries_reports (events : List Event) : retries (reports events) = retries events :=
  filterMap_reports (fun _ => retry?_of_not_isReport) events

@[simp]
theorem evaluations_append (first rest : List Event) :
    evaluations (first ++ rest) = evaluations first + evaluations rest := by
  simp [evaluations]

@[simp]
theorem retries_append (first rest : List Event) :
    retries (first ++ rest) = retries first ++ retries rest :=
  List.filterMap_append

end Event

namespace Survey

open Event (evaluations retries)

variable {setup : Setup} {snapshot : Snapshot} {run : Run} {progress : Progress}
  {events : List Event}

/-! ## The counters of a pass -/

/-- Nothing is counted before the first pass. -/
theorem counters_of_opening {told : List Event} (h : Opening run told) :
    evaluations told = 0 ∧ retries told = [] := by
  cases h <;> exact ⟨rfl, rfl⟩

/-- A pass that is stopped on its way counts as nothing. -/
theorem counters_of_halfway {halfway : Progress} {told : List Event}
    (h : Halfway setup snapshot progress halfway told) :
    halfway.run = progress.run ∧ halfway.passes = progress.passes ∧
      evaluations told = 0 ∧ retries told = [] := by
  cases h <;> exact ⟨rfl, rfl, rfl, rfl⟩

/-- A pass that is followed by another one counts as one evaluation and one retry. -/
theorem counters_of_again {next : Progress}
    (h : (pass setup snapshot progress).Course events (some (.again next))) :
    evaluations events = 1 ∧
      retries events = [progress.run.retryCount.toNat + 1] ∧
      progress.run.retryCount.toNat < progress.run.maxRetries.toNat ∧
      next.run.retryCount.toNat = progress.run.retryCount.toNat + 1 ∧
      next.run.maxRetries = progress.run.maxRetries ∧
      next.passes = progress.passes + 1 ∧ next.error = progress.error := by
  cases passCourse h with
  | again hfound hopen hnext hreports =>
      have hcount := Run.retried_retryCount hopen
      refine ⟨?_, ?_, Run.retryCount_lt_of_not_ceilingReached hopen, hcount _, rfl, rfl, rfl⟩
      · rw [← Event.evaluations_reports, hreports]
        rfl
      · rw [← Event.retries_reports, hreports]
        exact congrArg (fun count => [count]) (hcount _)

/-- A pass whose result is accepted counts as one evaluation. -/
theorem counters_of_accepted {accepted : Progress}
    (h : (pass setup snapshot progress).Course events (some (.accepted accepted))) :
    evaluations events = 1 ∧ retries events = [] := by
  cases passCourse h with
  | accepted hfound hsettle hreports =>
      rw [← Event.evaluations_reports, ← Event.retries_reports, hreports]
      exact ⟨rfl, rfl⟩

/-- Finishing a survey counts as nothing. -/
theorem counters_of_finish {result : Option Progress}
    (h : (finish setup progress).Course events result) :
    evaluations events = 0 ∧ retries events = [] := by
  rw [← Event.evaluations_reports, ← Event.retries_reports]
  rcases course_finish h with ⟨hreports, _⟩ | ⟨_, hreports, _⟩
  · rw [hreports]
    exact ⟨rfl, rfl⟩
  · rw [hreports, processing]
    split <;> exact ⟨rfl, rfl⟩

/-- The counters of a survey.  Each evaluation has been followed by a retry, apart from so many at
the end; retries are announced with their numbers, and none has been made above the ceiling.  The
counter of passes has the width of the retry counters. -/
structure Paced (run : Run) (events : List Event) (ahead : Nat) (progress : Progress) : Prop where
  passes : progress.passes = .ofNat (evaluations events)
  maxRetries : progress.run.maxRetries = run.maxRetries
  retryCount_ge : run.retryCount.toNat ≤ progress.run.retryCount.toNat
  retryCount_le :
    progress.run.retryCount.toNat ≤ max run.retryCount.toNat run.maxRetries.toNat
  evaluations_eq :
    evaluations events = progress.run.retryCount.toNat - run.retryCount.toNat + ahead
  announced : retries events = List.range' (run.retryCount.toNat + 1)
    (progress.run.retryCount.toNat - run.retryCount.toNat)

/-- Before the first pass all counters are as the run has them. -/
theorem paced_start (run : Run) (entries : List StageEntry) {opening : List Event}
    (hopening : Opening run (Event.reports opening)) :
    Paced run opening 0 ((Progress.start run).record entries) := by
  obtain ⟨hevaluations, hretries⟩ := counters_of_opening hopening
  rw [Event.evaluations_reports] at hevaluations
  rw [Event.retries_reports] at hretries
  have hsame : ((Progress.start run).record entries).run.retryCount = run.retryCount := rfl
  constructor
  · rw [hevaluations]
    rfl
  · rfl
  · exact Nat.le_refl _
  · exact Nat.le_max_left ..
  · rw [hsame, hevaluations, Nat.sub_self]
  · rw [hsame, hretries, Nat.sub_self, List.range'_zero]

/-- A pass that is followed by another one advances both counters by one. -/
theorem Paced.again {earlier : List Event} {next : Progress}
    (hpaced : Paced run earlier 0 progress)
    (h : (pass setup snapshot progress).Course events (some (.again next))) :
    Paced run (earlier ++ events) 0 next := by
  obtain ⟨hevaluations, hretries, hlt, hcount, hmax, hpasses, _⟩ := counters_of_again h
  have hge := hpaced.retryCount_ge
  have hle := hpaced.retryCount_le
  have hpace := hpaced.evaluations_eq
  rw [hpaced.maxRetries] at hlt
  have hspent : next.run.retryCount.toNat - run.retryCount.toNat =
      progress.run.retryCount.toNat - run.retryCount.toNat + 1 := by omega
  constructor
  · rw [hpasses, hpaced.passes, Event.evaluations_append, hevaluations, UInt32.ofNat_add]
    rfl
  · rw [hmax, hpaced.maxRetries]
  · omega
  · omega
  · rw [Event.evaluations_append, hevaluations, hspent]
    omega
  · rw [Event.retries_append, hretries, hpaced.announced, hspent, List.range'_concat]
    congr 2
    omega

/-- A pass that is not followed by another one may be one evaluation ahead. -/
theorem Paced.ahead {earlier : List Event} {last : Progress} {extra : Nat}
    (hpaced : Paced run earlier 0 progress) (hevaluations : evaluations events = extra)
    (hretries : retries events = []) (hpasses : last.passes = progress.passes + .ofNat extra)
    (hcount : last.run.retryCount = progress.run.retryCount)
    (hmax : last.run.maxRetries = progress.run.maxRetries) :
    Paced run (earlier ++ events) extra last := by
  constructor
  · rw [hpasses, hpaced.passes, Event.evaluations_append, hevaluations, UInt32.ofNat_add]
  · rw [hmax, hpaced.maxRetries]
  · rw [hcount]
    exact hpaced.retryCount_ge
  · rw [hcount]
    exact hpaced.retryCount_le
  · rw [Event.evaluations_append, hevaluations, hpaced.evaluations_eq, hcount, Nat.add_zero]
  · rw [Event.retries_append, hretries, hpaced.announced, hcount, List.append_nil]

/-- The counters before every pass of a survey. -/
theorem paced {opening : List Event} (hopening : Opening run (Event.reports opening))
    {rounds : List Round} (h : Reaches setup snapshot run rounds progress) :
    Paced run (opening ++ Round.eventsOf rounds) 0 progress ∧ progress.error = none := by
  induction h with
  | start entries =>
      simpa [Round.eventsOf] using ⟨paced_start run entries hopening, rfl⟩
  | again earlier round ih =>
      obtain ⟨hpaced, herror⟩ := ih
      obtain ⟨_, _, _, _, _, _, hsame⟩ := counters_of_again round
      have hagain := hpaced.again round
      rw [hsame, herror]
      simpa [Round.eventsOf] using hagain

/-! ## The end of a survey -/

/-- What holds at the end of the survey of a run. -/
structure WithinBudget (run : Run) (events : List Event) (final : Progress) : Prop where
  evaluations_le : evaluations events ≤ (run.maxRetries.toNat - run.retryCount.toNat) + 1
  passes : final.passes = .ofNat (evaluations events)
  maxRetries : final.run.maxRetries = run.maxRetries
  retryCount_ge : run.retryCount.toNat ≤ final.run.retryCount.toNat
  retryCount_le :
    final.run.retryCount.toNat ≤ max run.retryCount.toNat run.maxRetries.toNat
  announced : retries events = List.range' (run.retryCount.toNat + 1)
    (final.run.retryCount.toNat - run.retryCount.toNat)
  outcome : final.run.status = .completed ∨ final.run.status = .failed
  failed_iff : final.run.status = .failed ↔ final.error.isSome = true
  completed : final.run.status = .completed →
    evaluations events = final.run.retryCount.toNat - run.retryCount.toNat + 1 ∧
      final.decision = some .accept ∧
      ∃ evaluation, final.evaluation = some evaluation ∧
        (evaluation.decision ≠ .accept → run.maxRetries ≤ final.run.retryCount)
  failed : final.run.status = .failed →
    evaluations events = final.run.retryCount.toNat - run.retryCount.toNat ∨
      evaluations events = final.run.retryCount.toNat - run.retryCount.toNat + 1

/-- The counter of passes tells the evaluations themselves, unless the run may make as many retries
as a counter can tell. -/
theorem WithinBudget.toNat_passes {final : Progress} (h : WithinBudget run events final)
    (hbudget : run.maxRetries.toNat - run.retryCount.toNat + 1 < 2 ^ 32) :
    final.passes.toNat = evaluations events := by
  rw [h.passes]
  exact UInt32.toNat_ofNat_of_lt (Nat.lt_of_le_of_lt h.evaluations_le hbudget)

/-- A survey that is at most one evaluation ahead makes one more than its retries at most. -/
theorem Paced.evaluations_le {ahead : Nat} (hpaced : Paced run events ahead progress)
    (hahead : ahead ≤ 1) :
    evaluations events ≤ (run.maxRetries.toNat - run.retryCount.toNat) + 1 := by
  have hle := hpaced.retryCount_le
  have hpace := hpaced.evaluations_eq
  omega

/-- A survey that fails. -/
theorem Paced.withinBudget_fail {ahead : Nat} (hpaced : Paced run events ahead progress)
    (hahead : ahead ≤ 1) (error : String) : WithinBudget run events (progress.fail error) where
  evaluations_le := hpaced.evaluations_le hahead
  passes := hpaced.passes
  maxRetries := hpaced.maxRetries
  retryCount_ge := hpaced.retryCount_ge
  retryCount_le := hpaced.retryCount_le
  announced := hpaced.announced
  outcome := .inr rfl
  failed_iff := ⟨fun _ => rfl, fun _ => rfl⟩
  completed := by
    intro h
    cases h
  failed := by
    intro _
    have hpace := hpaced.evaluations_eq
    have hsame : (progress.fail error).run.retryCount = progress.run.retryCount := rfl
    rw [hsame]
    omega

/-- A survey that is completed. -/
theorem Paced.withinBudget_complete {evaluation : Evaluation}
    (hpaced : Paced run events 1 progress) (herror : progress.error = none)
    (hdecision : progress.decision = some (progress.run.settle evaluation))
    (hsettle : progress.run.settle evaluation = .accept)
    (hevaluation : progress.evaluation = some evaluation) :
    WithinBudget run events progress.complete where
  evaluations_le := hpaced.evaluations_le (Nat.le_refl 1)
  passes := hpaced.passes
  maxRetries := hpaced.maxRetries
  retryCount_ge := hpaced.retryCount_ge
  retryCount_le := hpaced.retryCount_le
  announced := hpaced.announced
  outcome := .inl rfl
  failed_iff := by
    have hsame : progress.complete.error = none := herror
    rw [hsame]
    constructor
    · intro h
      cases h
    · intro h
      cases h
  completed := by
    intro _
    refine ⟨hpaced.evaluations_eq, hdecision.trans (congrArg some hsettle), evaluation,
      hevaluation, ?_⟩
    intro hother
    cases hceiling : progress.run.ceilingReached with
    | true =>
        rw [Run.ceilingReached, decide_eq_true_eq, hpaced.maxRetries] at hceiling
        exact hceiling
    | false =>
        rw [Run.settle_of_not_ceilingReached hceiling] at hsettle
        exact absurd hsettle hother
  failed := by
    intro h
    cases h

/-- A survey that is closed by a last pass from which no panic escapes stays within its budget. -/
theorem Paced.withinBudget {earlier : List Event} {result : Option Progress}
    (hpaced : Paced run earlier 0 progress) (herror : progress.error = none)
    (h : Closes setup snapshot progress events result)
    (hcontained : ∀ event ∈ events, event.escapes = false) :
    ∃ final, result = some final ∧ WithinBudget run (earlier ++ events) final := by
  cases h with
  | crashed last => exact absurd rfl (course_pass_ne_none last hcontained)
  | abandoned last =>
      cases passCourse last with
      | stopped hhalfway hreports =>
          rename_i halfway told
          obtain ⟨hrun, hpasses, hevaluations, hretries⟩ := counters_of_halfway hhalfway
          refine ⟨_, rfl, Paced.withinBudget_fail ?_ (Nat.zero_le 1) _⟩
          refine hpaced.ahead ?_ ?_ (by simp [hpasses]) (by rw [hrun]) (by rw [hrun])
          · rw [← Event.evaluations_reports, hreports, Event.evaluations_append, hevaluations]
            rfl
          · rw [← Event.retries_reports, hreports, Event.retries_append, hretries]
            rfl
  | accepted last finished =>
      rename_i passing finishing accepted
      have hpassing := counters_of_accepted last
      have hfinishing := counters_of_finish finished
      have hevaluations : evaluations (passing ++ finishing) = 1 := by
        rw [Event.evaluations_append, hpassing.1, hfinishing.1]
      have hretries : retries (passing ++ finishing) = [] := by
        rw [Event.retries_append, hpassing.2, hfinishing.2, List.append_nil]
      cases passCourse last with
      | accepted hfound hsettle hreports =>
          -- An accepted survey can still be stopped, and then fails one evaluation ahead.
          rcases course_finish finished with ⟨_, rfl⟩ | ⟨entries, _, rfl⟩
          · refine ⟨_, rfl, Paced.withinBudget_fail ?_ (Nat.le_refl 1) _⟩
            exact hpaced.ahead hevaluations hretries rfl rfl rfl
          · refine ⟨_, rfl, Paced.withinBudget_complete ?_ herror rfl hsettle rfl⟩
            exact hpaced.ahead hevaluations hretries rfl rfl rfl

/-- The retry budget of a survey.  Passes cannot follow each other forever, and a survey is the loop
over its passes; the retry that a settled decision asks for can be scheduled; and a survey from
which no panic escapes comes to an end within the budget of its run. -/
theorem retry_budget (setup : Setup) (run : Run) (source : Source) :
    (∀ snapshot, WellFounded fun next progress => FollowedBy setup snapshot progress next) ∧
      (∀ snapshot progress, drive setup snapshot progress =
        (pass setup snapshot progress).bind (proceed setup (drive setup snapshot))) ∧
      (∀ (current : Run) (evaluation : Evaluation) (targets : Option TargetSet),
        nextTargets evaluation (current.settle evaluation) = some targets →
          current.scheduleRetry targets = .ok (current.retried targets)) ∧
      ∀ events result, (carryOut setup run source).Course events result →
        (∀ event ∈ events, event.escapes = false) →
          ∃ final, result = some final ∧ WithinBudget run events final := by
  refine ⟨wellFounded_followedBy setup, drive_eq setup, ?_, ?_⟩
  · intro current evaluation targets hnext
    exact Run.scheduleRetry_of_not_ceilingReached (nextTargets_settle hnext).1 targets
  intro events result hcourse hcontained
  cases carryOutCourse hcourse with
  | refused error hopening hreports =>
      obtain ⟨hevaluations, hretries⟩ := counters_of_opening hopening
      have hpaced : Paced run ([] ++ events) 0 (Progress.start run) := by
        refine (paced_start run [] .snapshot).ahead ?_ ?_ rfl rfl rfl
        · rw [← Event.evaluations_reports, hreports, Event.evaluations_append, hevaluations]
          rfl
        · rw [← Event.retries_reports, hreports, Event.retries_append, hretries]
          rfl
      exact ⟨_, rfl, hpaced.withinBudget_fail (Nat.zero_le 1) error⟩
  | crashed hescapes =>
      obtain ⟨event, hmem, hescape⟩ := hescapes
      rw [hcontained event hmem] at hescape
      cases hescape
  | closed hopening hreaches hcloses hevents =>
      obtain ⟨hpaced, herror⟩ := paced hopening hreaches
      rw [hevents, ← List.append_assoc] at hcontained ⊢
      refine hpaced.withinBudget herror hcloses ?_
      intro event hmem
      exact hcontained event (List.mem_append_right _ hmem)

/-- The survey of two files stays within its budget of one retry. -/
theorem retry_budget_two_files :
    ∃ final,
      ((carryOut TwoFiles.setup TwoFiles.run (.snapshot TwoFiles.snapshot)).run
        TwoFiles.host 0).1 = some final ∧
      WithinBudget TwoFiles.run
        ((carryOut TwoFiles.setup TwoFiles.run (.snapshot TwoFiles.snapshot)).events
          TwoFiles.host 0) final :=
  (retry_budget TwoFiles.setup TwoFiles.run (.snapshot TwoFiles.snapshot)).2.2.2 _ _
    (Plan.course_run TwoFiles.host _ 0) (TwoFiles.escapes_eq_false _ 0)

end Survey
end CodeSurvey
