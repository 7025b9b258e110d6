import CodeSurvey.Proofs.Survey.Pass

/-!
# Surveys as sequences of passes

A survey makes passes as long as the last one asks for another.  Retries run out, so it makes only
finitely many, and the bound that its definition carries along is never met: a survey is the plain
loop over its passes.  Every course of a survey is a sequence of rounds, each followed by another
pass, and a last pass that closes the survey.

## Main results

* `Survey.drive_eq`: the survey of a snapshot is the loop over its passes.
* `Survey.wellFounded_followedBy`: no infinite sequence of passes exists.
* `Survey.carryOutCourse`: the courses of a survey, by their rounds.
-/

namespace CodeSurvey
namespace Survey

section Loop

variable {setup : Setup} {snapshot : Snapshot} {run : Run} {progress : Progress}
  {events : List Event}

/-! ## The loop over passes -/

/-- A retry is spent each time. -/
theorem retriesLeft_retried (h : run.ceilingReached = false) (targets : Option TargetSet) :
    retriesLeft run = retriesLeft (run.retried targets) + 1 := by
  have hlt := Run.retryCount_lt_of_not_ceilingReached h
  have hcount := Run.retried_retryCount h targets
  simp only [retriesLeft, hcount]
  rw [show (run.retried targets).maxRetries = run.maxRetries from rfl]
  omega

/-- Whether a pass from one progress can be followed by one from another. -/
def FollowedBy (setup : Setup) (snapshot : Snapshot) (progress next : Progress) : Prop :=
  ∃ events, (pass setup snapshot progress).Course events (some (.again next))

/-- A pass that is followed by another one spends a retry. -/
theorem FollowedBy.retriesLeft_eq {next : Progress}
    (h : FollowedBy setup snapshot progress next) :
    retriesLeft progress.run = retriesLeft next.run + 1 := by
  obtain ⟨events, hcourse⟩ := h
  cases passCourse hcourse with
  | again hfound hopen hnext hreports => exact retriesLeft_retried hopen _

/-- Passes cannot follow each other forever. -/
theorem wellFounded_followedBy (setup : Setup) (snapshot : Snapshot) :
    WellFounded fun next progress => FollowedBy setup snapshot progress next := by
  refine Subrelation.wf ?_ (measure fun progress => retriesLeft progress.run).wf
  intro next progress h
  have hleft := h.retriesLeft_eq
  exact (by omega : retriesLeft next.run < retriesLeft progress.run)

/-- The progress before the next pass, if there is to be one. -/
def PassEnd.next? : PassEnd → Option Progress
  | .again progress => some progress
  | _ => none

/-- There is a next progress exactly if another pass is scheduled. -/
theorem PassEnd.next?_eq_some_iff {ending : PassEnd} :
    ending.next? = some progress ↔ ending = .again progress := by
  cases ending <;> simp [next?]

/-- The course of a pass whose run with a host is followed by another pass. -/
theorem course_again_of_run {σ : Type} {host : Host σ} {state : σ} {plan : Plan PassEnd}
    {next : Progress} (h : (plan.run host state).1.bind PassEnd.next? = some next) :
    plan.Course (plan.events host state) (some (.again next)) := by
  have hcourse := Plan.course_run host plan state
  obtain ⟨ending, hending, hnext⟩ := Option.bind_eq_some_iff.1 h
  rw [hending, PassEnd.next?_eq_some_iff.1 hnext] at hcourse
  exact hcourse

/-- What is done after a pass. -/
def proceed (setup : Setup) (again : Progress → Plan Progress) : PassEnd → Plan Progress
  | .abandoned progress => .done progress
  | .accepted progress => finish setup progress
  | .again progress => again progress

/-- The survey of a snapshot is the loop over its passes. -/
theorem drive_eq (setup : Setup) (snapshot : Snapshot) (progress : Progress) :
    drive setup snapshot progress =
      (pass setup snapshot progress).bind (proceed setup (drive setup snapshot)) := by
  rw [drive, passes.eq_def]
  apply Plan.bind_congr
  intro events ending hcourse
  cases ending with
  | abandoned next => rfl
  | accepted next => rfl
  | again next =>
      have hfollowed : FollowedBy setup snapshot progress next := ⟨events, hcourse⟩
      simp only [hfollowed.retriesLeft_eq]
      rfl

/-! ## Rounds -/

/-- A pass that was followed by another one: the progress before it, and what it met on its way. -/
structure Round where
  before : Progress
  events : List Event

/-- What a sequence of rounds met on its way. -/
def Round.eventsOf (rounds : List Round) : List Event := rounds.flatMap Round.events

/-- The events of rounds are those of each round, one after the other. -/
@[simp]
theorem Round.eventsOf_concat (rounds : List Round) (round : Round) :
    eventsOf (rounds ++ [round]) = eventsOf rounds ++ round.events := by
  simp [eventsOf]

/-- How the survey of a run comes to the progress before its next pass. -/
inductive Reaches (setup : Setup) (snapshot : Snapshot) (run : Run) :
    List Round → Progress → Prop where
  | start (entries : List StageEntry) :
      Reaches setup snapshot run [] ((Progress.start run).record entries)
  | again {rounds : List Round} {before after : Progress} {events : List Event}
      (earlier : Reaches setup snapshot run rounds before)
      (round : (pass setup snapshot before).Course events (some (.again after))) :
      Reaches setup snapshot run (rounds ++ [⟨before, events⟩]) after

/-- Before every pass the entities are stored under their own identities. -/
theorem Reaches.keyed {rounds : List Round} (h : Reaches setup snapshot run rounds progress) :
    progress.store.Keyed := by
  induction h with
  | start entries => exact Store.keyed_empty
  | again earlier round ih =>
      cases passCourse round with
      | again hfound hopen hnext hreports => exact hfound.keyed ih

/-- How the last pass from a progress closes the survey: by a crash, by being abandoned, or by being
accepted and finished. -/
inductive Closes (setup : Setup) (snapshot : Snapshot) (before : Progress) :
    List Event → Option Progress → Prop where
  | crashed {events : List Event} (last : (pass setup snapshot before).Course events none) :
      Closes setup snapshot before events none
  | abandoned {events : List Event} {progress : Progress}
      (last : (pass setup snapshot before).Course events (some (.abandoned progress))) :
      Closes setup snapshot before events (some progress)
  | accepted {passing finishing : List Event} {progress : Progress} {result : Option Progress}
      (last : (pass setup snapshot before).Course passing (some (.accepted progress)))
      (finished : (finish setup progress).Course finishing result) :
      Closes setup snapshot before (passing ++ finishing) result

/-- What every round keeps holds before the last pass: a survey goes on with rounds and is then
closed. -/
theorem course_drive_of (holds : List Round → Progress → Prop)
    (hround : ∀ rounds before passing next, holds rounds before →
      (pass setup snapshot before).Course passing (some (.again next)) →
        holds (rounds ++ [⟨before, passing⟩]) next)
    {rounds : List Round} {result : Option Progress} (hstart : holds rounds progress)
    (h : (drive setup snapshot progress).Course events result) :
    ∃ allRounds before last, holds allRounds before ∧
      Closes setup snapshot before last result ∧
      Round.eventsOf rounds ++ events = Round.eventsOf allRounds ++ last := by
  -- The rounds so far accumulate, so the induction is over what can still follow.
  induction progress using (wellFounded_followedBy setup snapshot).induction
    generalizing rounds events with
  | _ progress ih =>
      rw [drive_eq, Plan.course_bind_iff] at h
      rcases h with ⟨ending, passing, rest, hpass, hrest, rfl⟩ | ⟨hcrash, rfl⟩
      · cases ending with
        | abandoned next =>
            simp only [proceed, Plan.course_done_iff] at hrest
            obtain ⟨rfl, rfl⟩ := hrest
            exact ⟨rounds, progress, passing, hstart, .abandoned hpass, by simp⟩
        | accepted next =>
            exact ⟨rounds, progress, passing ++ rest, hstart, .accepted hpass hrest, rfl⟩
        | again next =>
            obtain ⟨allRounds, before, last, hall, hcloses, hevents⟩ :=
              ih next ⟨passing, hpass⟩ (hround rounds progress passing next hstart hpass) hrest
            refine ⟨allRounds, before, last, hall, hcloses, ?_⟩
            rw [← hevents]
            simp [Round.eventsOf]
      · exact ⟨rounds, progress, events, hstart, .crashed hcrash, rfl⟩

/-- A course from a progress that is reached goes on with rounds and is then closed. -/
theorem course_drive {rounds : List Round} {result : Option Progress}
    (hreaches : Reaches setup snapshot run rounds progress)
    (h : (drive setup snapshot progress).Course events result) :
    ∃ allRounds before last, Reaches setup snapshot run allRounds before ∧
      Closes setup snapshot before last result ∧
      Round.eventsOf rounds ++ events = Round.eventsOf allRounds ++ last :=
  course_drive_of (Reaches setup snapshot run) (fun _ _ _ _ hearlier hpass => hearlier.again hpass)
    hreaches h

/-! ## Finishing a survey -/

/-- The calls of post-processors, of which the first one is at a place, and what became of them. -/
def processorEvents (progress : Progress) (place : Nat) (outcomes : List (Outcome String Unit)) :
    List Event :=
  (outcomes.zipIdx place).map fun (outcome, place) =>
    .answered (.postProcess place progress.store progress.evaluation) outcome

/-- What happens while the post-processors run are calls. -/
theorem isCall_of_mem_processorEvents {place : Nat} {outcomes : List (Outcome String Unit)}
    {event : Event} (h : event ∈ processorEvents progress place outcomes) :
    event.isCall = true := by
  obtain ⟨_, _, rfl⟩ := List.mem_map.1 h
  rfl

/-- The observer is told nothing by the post-processors themselves. -/
@[simp]
theorem reports_processorEvents (progress : Progress) (place : Nat)
    (outcomes : List (Outcome String Unit)) :
    Event.reports (processorEvents progress place outcomes) = [] :=
  Event.reports_eq_nil_of_isCall fun _ => isCall_of_mem_processorEvents

/-- Post-processors are called in order and each adds a line to the log, and nothing else; their
panics are contained. -/
theorem course_runProcessors {place : Nat} {names : List String} {result : Option Progress}
    (h : (runProcessors place names progress).Course events result) :
    ∃ outcomes, outcomes.length = names.length ∧
      events = processorEvents progress place outcomes ∧
      result = some (progress.record
        (List.zipWith (postEntry progress.passes) names outcomes)) := by
  induction names generalizing place progress events with
  | nil =>
      simp only [runProcessors, Plan.course_done_iff] at h
      obtain ⟨rfl, rfl⟩ := h
      exact ⟨[], rfl, rfl, by simp [Progress.record]⟩
  | cons name rest ih =>
      simp only [runProcessors, Plan.request, Plan.bind_eq, Plan.ask_bind, Plan.done_bind,
        Plan.course_ask_iff] at h
      obtain ⟨outcome, tail, htail, rfl⟩ := h
      obtain ⟨outcomes, hlength, rfl, rfl⟩ := ih htail
      refine ⟨outcome :: outcomes, by simp [hlength], rfl, ?_⟩
      simp [Progress.record]

/-- What the observer is told when post-processors are run. -/
def processing (setup : Setup) (run : Run) : List Event :=
  if setup.postProcessors.isEmpty then [] else [.entered .postProcessing run]

/-- After the report about them, post-processors only make their calls and add their lines. -/
theorem course_postProcess {result : Option Progress}
    (h : (postProcess setup progress).Course events result) :
    ∃ outcomes, outcomes.length = setup.postProcessors.length ∧
      events = processing setup progress.run ++ processorEvents progress 0 outcomes ∧
      result = some (progress.record
        (List.zipWith (postEntry progress.passes) setup.postProcessors outcomes)) := by
  rw [postProcess] at h
  rw [processing]
  split at h
  · rename_i hempty
    simp only [Plan.pure_eq_done, Plan.course_done_iff] at h
    obtain ⟨rfl, rfl⟩ := h
    rw [if_pos hempty, List.isEmpty_iff.1 hempty]
    exact ⟨[], rfl, rfl, by simp [Progress.record]⟩
  · rename_i hnonempty
    rw [Plan.bind_eq, Plan.course_bind_iff] at h
    simp only [course_enter_iff] at h
    rcases h with ⟨_, _, rest, ⟨rfl, _⟩, hrest, rfl⟩ | ⟨⟨_, ⟨⟩⟩, _⟩
    obtain ⟨outcomes, hlength, rfl, hresult⟩ := course_runProcessors hrest
    rw [if_neg hnonempty]
    exact ⟨outcomes, hlength, rfl, hresult⟩

/-- The courses of finishing: the survey is stopped, or the post-processors have been run and it is
completed. -/
inductive FinishCourse (setup : Setup) (progress : Progress) :
    List Event → Option Progress → Prop where
  | stopped : FinishCourse setup progress (stopEvents progress) (some (stopped progress))
  | completed {during : List Event} {entries : List StageEntry}
      (hduring : (postProcess setup progress).Course during (some (progress.record entries))) :
      FinishCourse setup progress
        (.looked false :: .entered .accepted progress.run :: during ++
          [.entered .done progress.complete.run])
        (some (progress.record entries).complete)

/-- Finishing never crashes. -/
theorem finishCourse {result : Option Progress}
    (h : (finish setup progress).Course events result) :
    FinishCourse setup progress events result := by
  simp only [finish, Plan.cancelled, Plan.bind_eq, Plan.poll_bind, Plan.done_bind,
    Plan.course_poll_iff] at h
  obtain ⟨cancelled, rest, hrest, rfl⟩ := h
  cases cancelled with
  | true =>
      simp only [if_true, course_abandon_iff] at hrest
      obtain ⟨rfl, rfl⟩ := hrest
      exact .stopped
  | false =>
      simp only [Bool.false_eq_true, if_false, Plan.course_bind_iff, course_enter_iff,
        Plan.pure_eq_done, Plan.course_done_iff] at hrest
      rcases hrest with ⟨_, _, tail, ⟨rfl, _⟩, htail, rfl⟩ | ⟨⟨_, ⟨⟩⟩, _⟩
      rcases htail with ⟨processed, during, last, hduring, hlast, rfl⟩ | ⟨hcrash, _⟩
      · obtain ⟨outcomes, _, _, hprocessed⟩ := course_postProcess hduring
        cases hprocessed
        rcases hlast with ⟨_, _, _, ⟨rfl, _⟩, ⟨rfl, rfl⟩, rfl⟩ | ⟨⟨_, ⟨⟩⟩, _⟩
        exact .completed hduring
      · obtain ⟨_, _, _, ⟨⟩⟩ := course_postProcess hcrash

/-- What the observer is told when a survey is finished. -/
theorem course_finish {result : Option Progress}
    (h : (finish setup progress).Course events result) :
    (Event.reports events = [.entered .failed (stopped progress).run] ∧
        result = some (stopped progress)) ∨
      ∃ entries, Event.reports events =
          .entered .accepted progress.run :: processing setup progress.run ++
            [.entered .done progress.complete.run] ∧
        result = some (progress.record entries).complete := by
  cases finishCourse h with
  | stopped => exact .inl ⟨rfl, rfl⟩
  | @completed during entries hduring =>
      obtain ⟨outcomes, -, rfl, -⟩ := course_postProcess hduring
      have hprocessing : Event.reports (processing setup progress.run) =
          processing setup progress.run := by
        rw [processing]
        split <;> rfl
      refine .inr ⟨entries, ?_, rfl⟩
      simp [hprocessing]

/-! ## Whole surveys -/

/-- What a survey is made of: a repository, whose snapshot has to be taken first, or a snapshot. -/
inductive Source where
  | repository (repo : RepoRef)
  | snapshot (snapshot : Snapshot)

/-- Carries out the survey of a source. -/
def carryOut (setup : Setup) (run : Run) : Source → Plan Progress
  | .repository repo => execute setup repo run
  | .snapshot snapshot => executeSnapshot setup snapshot run

/-- What the observer has been told before the first pass. -/
inductive Opening (run : Run) : List Event → Prop where
  | snapshot : Opening run []
  | repository : Opening run [.entered .ingesting (Progress.start run).run]

/-- The courses of a survey: it fails or crashes before the first pass, or it makes some rounds and
is closed by a last pass. -/
inductive CarryOutCourse (setup : Setup) (run : Run) (events : List Event) :
    Option Progress → Prop where
  | refused (error : String) {told : List Event} (hopening : Opening run told)
      (hreports : Event.reports events =
        told ++ [.entered .failed ((Progress.start run).fail error).run]) :
      CarryOutCourse setup run events (some ((Progress.start run).fail error))
  | crashed (hescapes : ∃ event ∈ events, event.escapes) : CarryOutCourse setup run events none
  | closed {snapshot : Snapshot} {opening last : List Event} {rounds : List Round}
      {before : Progress} {result : Option Progress}
      (hopening : Opening run (Event.reports opening))
      (hreaches : Reaches setup snapshot run rounds before)
      (hcloses : Closes setup snapshot before last result)
      (hevents : events = opening ++ (Round.eventsOf rounds ++ last)) :
      CarryOutCourse setup run events result

/-- Taking the snapshot crashes only if making the repository available panics. -/
theorem calls_ingest (setup : Setup) (repo : RepoRef) (run : Run) :
    (ingest setup repo run).Calls := by
  refine Plan.calls_ask (fun _ => rfl) ?_ ?_
  · intro root hescapes
    cases root with
    | panicked => rfl
    | _ => simp [Event.escapes] at hescapes
  · intro root hcontained
    cases root with
    | ok root =>
        refine Plan.calls_ask (fun _ => rfl) ?_ fun _ _ => Plan.calls_done _
        intro _ hescapes
        simp [Event.escapes] at hescapes
    | failed error => exact Plan.calls_done _
    | timedOut => exact Plan.calls_done _
    | panicked => simp [Event.escapes] at hcontained

/-- Taking a snapshot does not crash if no panic escapes from it. -/
theorem course_ingest_ne_none {repo : RepoRef} {result : Option (Except Failure Snapshot)}
    (h : (ingest setup repo run).Course events result)
    (hcontained : ∀ event ∈ events, event.escapes = false) : result ≠ none := by
  intro hcrash
  obtain ⟨event, hmem, hescapes⟩ := ((calls_ingest setup repo run).eq_none_iff h).1 hcrash
  rw [hcontained event hmem] at hescapes
  cases hescapes

/-- The taking of a snapshot begins and makes its calls. -/
def takingEvents (run : Run) (calls : List Event) : List Event :=
  .looked false :: .entered .ingesting (Progress.start run).run :: calls

/-- The progress of a survey whose snapshot has been taken. -/
def taken (run : Run) (snapshot : Snapshot) : Progress :=
  (Progress.start run).record
    [⟨.ingest, .success, 0, snapshot.files.length.repr ++ " files"⟩]

/-- The progress of a survey whose snapshot could not be taken. -/
def refused (run : Run) (failure : Failure) : Progress :=
  (Progress.start run).fail ("repository acquisition failed: " ++ failure.message)

/-- The courses of the survey of a repository: it is stopped at once, the snapshot cannot be taken,
a panic escapes from that, or the snapshot is taken and surveyed. -/
inductive ExecuteCourse (setup : Setup) (repo : RepoRef) (run : Run) :
    List Event → Option Progress → Prop where
  | stopped :
      ExecuteCourse setup repo run (stopEvents (.start run)) (some (stopped (.start run)))
  | refused {taking : List Event} {failure : Failure}
      (htaking : (ingest setup repo (Progress.start run).run).Course taking
        (some (.error failure))) :
      ExecuteCourse setup repo run
        (takingEvents run taking ++ [.entered .failed (refused run failure).run])
        (some (refused run failure))
  | crashed {taking : List Event}
      (hcrash : (ingest setup repo (Progress.start run).run).Course taking none) :
      ExecuteCourse setup repo run (takingEvents run taking) none
  | surveyed {taking last : List Event} {snapshot : Snapshot} {result : Option Progress}
      (htaking : (ingest setup repo (Progress.start run).run).Course taking
        (some (.ok snapshot)))
      (hdrive : (drive setup snapshot (taken run snapshot)).Course last result) :
      ExecuteCourse setup repo run (takingEvents run taking ++ last) result

/-- The survey of a repository has no other courses. -/
theorem executeCourse {repo : RepoRef} {result : Option Progress}
    (h : (execute setup repo run).Course events result) :
    ExecuteCourse setup repo run events result := by
  simp only [execute, Plan.cancelled, Plan.bind_eq, Plan.poll_bind, Plan.done_bind,
    Plan.course_poll_iff] at h
  obtain ⟨cancelled, rest, hrest, rfl⟩ := h
  cases cancelled with
  | true =>
      simp only [if_true, course_abandon_iff] at hrest
      obtain ⟨rfl, rfl⟩ := hrest
      exact .stopped
  | false =>
      simp only [Bool.false_eq_true, if_false] at hrest
      rw [Plan.course_bind_iff] at hrest
      simp only [course_enter_iff] at hrest
      rcases hrest with ⟨_, _, tail, ⟨rfl, _⟩, htail, rfl⟩ | ⟨⟨_, ⟨⟩⟩, _⟩
      rw [Plan.course_bind_iff] at htail
      rcases htail with ⟨ingested, taking, last, htaking, hlast, rfl⟩ | ⟨hcrash, rfl⟩
      · cases ingested with
        | error failure =>
            simp only [course_abandon_iff] at hlast
            obtain ⟨rfl, rfl⟩ := hlast
            exact .refused htaking
        | ok snapshot =>
            change ExecuteCourse setup repo run (takingEvents run taking ++ last) result
            exact .surveyed htaking hlast
      · exact .crashed hcrash

/-- While the snapshot is taken the observer is told of this phase alone. -/
theorem reports_takingEvents {repo : RepoRef} {taking : List Event}
    {result : Option (Except Failure Snapshot)}
    (h : (ingest setup repo (Progress.start run).run).Course taking result) :
    Event.reports (takingEvents run taking) = [.entered .ingesting (Progress.start run).run] := by
  have hsilent := (calls_ingest setup repo _).silent _ _ h
  simp [takingEvents, hsilent]

/-- A survey that has its snapshot is a sequence of rounds that is closed by a last pass. -/
theorem carryOutCourse_of_drive {opening last : List Event} {entries : List StageEntry}
    {result : Option Progress} (hopening : Opening run (Event.reports opening))
    (h : (drive setup snapshot ((Progress.start run).record entries)).Course last result) :
    CarryOutCourse setup run (opening ++ last) result := by
  obtain ⟨rounds, before, closing, hreaches, hcloses, hevents⟩ := course_drive (.start entries) h
  rw [show last = Round.eventsOf rounds ++ closing from hevents]
  exact .closed hopening hreaches hcloses rfl

/-- Every course of a survey is one of the described ones. -/
theorem carryOutCourse {source : Source} {result : Option Progress}
    (h : (carryOut setup run source).Course events result) :
    CarryOutCourse setup run events result := by
  cases source with
  | snapshot snapshot =>
      have hopening : Opening run (Event.reports []) := .snapshot
      have hdrive : (drive setup snapshot ((Progress.start run).record [])).Course events result :=
        h
      exact carryOutCourse_of_drive hopening hdrive
  | repository repo =>
      cases executeCourse h with
      | stopped => exact .refused _ .snapshot rfl
      | refused htaking =>
          refine .refused _ .repository ?_
          rw [Event.reports_append, reports_takingEvents htaking]
          rfl
      | crashed hcrash =>
          obtain ⟨event, hmem, hescapes⟩ := ((calls_ingest setup repo _).eq_none_iff hcrash).1 rfl
          exact .crashed ⟨event, by simp [takingEvents, hmem], hescapes⟩
      | surveyed htaking hdrive =>
          refine carryOutCourse_of_drive ?_ hdrive
          rw [reports_takingEvents htaking]
          exact .repository

end Loop

/-! ## A survey of two files

The first pass finds neither a summary nor a vector of the second file, and the second pass, which
is made for that file alone, finds both. -/

namespace TwoFiles

def a : EntityId := ⟨"a.py"⟩

def b : EntityId := ⟨"b.py"⟩

/-- The standard settings and the standard similarity. -/
def setup : Setup where
  settings := .default
  collaborators := ⟨"summarizer", "embedder", .cosine, false⟩
  strategy := none
  postProcessors := []

def snapshot : Snapshot := ⟨"repository", [⟨a, "a.py", "alpha"⟩, ⟨b, "b.py", "beta"⟩]⟩

/-- A run with one retry. -/
def run : Run := .new ⟨0⟩ 1

def replies : (analyses : Nat) → AnalysisReplies
  | 0 => {
      summaries := .ok [⟨a, "Reads the configuration.", 1, .file, []⟩, ⟨b, "", 1, .file, []⟩]
      graph := .ok .empty
      embeddings := .ok [⟨a, [1]⟩] }
  | _ => {
      summaries := .ok [⟨b, "Writes the configuration.", 1, .file, []⟩]
      graph := .ok .empty
      embeddings := .ok [⟨b, [1]⟩] }

/-- A host that counts the analyses. -/
def host : Host Nat where
  cancelled _ := false
  answer
    | .analyze .., analyses => (replies analyses, analyses + 1)
    | .embedTexts .., analyses => (fun _ => .ok [1], analyses)
    | .phase .., analyses => ((), analyses)
    | .evaluated .., analyses => ((), analyses)
    | .tree .., analyses => (none, analyses)
    | .decide .., analyses => (.accept, analyses)
    | .materialize .., analyses => (.timedOut, analyses)
    | .summarizeSnippet .., analyses => (.timedOut, analyses)
    | .attemptTier .., analyses => (.timedOut, analyses)
    | .judgeAvailable, analyses => (.timedOut, analyses)
    | .askJudge .., analyses => (.timedOut, analyses)
    | .postProcess .., analyses => (.timedOut, analyses)

/-- The host never panics. -/
theorem escapes_eq_false (plan : Plan α) (analyses : Nat) :
    ∀ event ∈ plan.events host analyses, event.escapes = false := by
  apply Plan.forall_mem_events
  · intro cancelled
    rfl
  · intro request analyses
    cases request with
    | embedTexts texts limit => simp [Event.escapes, host, Evaluator.panicked]
    | _ => rfl

/-- The progress before the second pass. -/
def second : Progress :=
  (((pass setup snapshot (.start run)).run host 0).1.bind PassEnd.next?).get (by decide +kernel)

/-- The second pass is made for the second file. -/
theorem second_targets : second.run.targets = some (OrderedSet.ofElements [b]) := by
  decide +kernel

theorem reaches_second :
    Reaches setup snapshot run
      [⟨.start run, (pass setup snapshot (.start run)).events host 0⟩] second :=
  (Reaches.start []).again (course_again_of_run (Option.some_get _).symm)

/-- The end of the second pass. -/
def ending : PassEnd :=
  ((pass setup snapshot second).run host 1).1.get (by decide +kernel)

theorem course_second :
    (pass setup snapshot second).Course ((pass setup snapshot second).events host 1)
      (some ending) :=
  Plan.course_run_get host (pass setup snapshot second) 1 _

end TwoFiles

end Survey
end CodeSurvey
