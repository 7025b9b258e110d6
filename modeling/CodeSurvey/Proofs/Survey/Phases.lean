import CodeSurvey.Proofs.Survey.RetryBudget

/-!
# The phases of a survey

The observer is told of each phase together with the run.  The phases of every survey form a word of
one small language: a pass that is followed by another one goes through four phases, and the last
pass can be stopped before each of its own.  The number of retries can be read off the run at the
end, and the counters of the runs that the observer is told of are consecutive.

## Main results

* `Survey.PhaseWord`: the words of the language, by the source and the number of retries.
* `Survey.Seen`: what the observer sees of a part of a survey; parts are put together by
  `Survey.Seen.append`.
* `Survey.phase_protocol`: the phases, counters and statuses of every survey in which no panic
  escapes.
-/

namespace CodeSurvey

/-! ## What the observer sees -/

namespace Event

/-- The phase that the observer is told of, with the run. -/
def phase? : Event → Option (Phase × Run)
  | .answered (.phase phase run) _ => some (phase, run)
  | _ => none

/-- The phases that the observer is told of, in order, each with the run. -/
def phases (events : List Event) : List (Phase × Run) := events.filterMap phase?

/-- The retry counters of the runs with which the observer is told of a phase, in order. -/
def countersAt (phase : Phase) (events : List Event) : List Nat :=
  ((phases events).filter fun seen => seen.1 = phase).map fun seen => seen.2.retryCount.toNat

/-- What is no report tells of no phase. -/
theorem phase?_of_not_isReport {event : Event} (h : event.isReport = false) :
    event.phase? = none := by
  unfold phase?
  split
  · simp [isReport] at h
  · rfl

/-- The phases can be read off the reports alone. -/
theorem phases_reports (events : List Event) : phases (reports events) = phases events :=
  filterMap_reports (fun _ => phase?_of_not_isReport) events

@[simp]
theorem phases_append (first rest : List Event) :
    phases (first ++ rest) = phases first ++ phases rest :=
  List.filterMap_append

@[simp]
theorem countersAt_append (phase : Phase) (first rest : List Event) :
    countersAt phase (first ++ rest) = countersAt phase first ++ countersAt phase rest := by
  simp [countersAt]

end Event

/-- The status of a run in a phase that it has entered. -/
def Phase.runStatus : Phase → RunStatus
  | .done => .completed
  | .failed => .failed
  | _ => .running

namespace Survey

open Event (phases countersAt)

variable {setup : Setup} {snapshot : Snapshot} {run : Run} {progress : Progress}
  {events : List Event}

/-! ## The language of phases -/

/-- The phases of a pass that is followed by another one. -/
def roundPhases : List Phase := [.analyzing, .fusing, .evaluating, .retrying]

/-- The phases after a result has been accepted. -/
def finalPhases (setup : Setup) : List Phase :=
  .accepted :: (if setup.postProcessors.isEmpty then [] else [.postProcessing]) ++ [.done]

/-- The phases from the last pass on: it is stopped at one of four places, or completed. -/
def closingPhases (setup : Setup) : List (List Phase) := [
  [.failed],
  [.analyzing, .failed],
  [.analyzing, .fusing, .failed],
  [.analyzing, .fusing, .evaluating, .failed],
  [.analyzing, .fusing, .evaluating] ++ finalPhases setup]

/-- The phases of the survey of a source with so many retries. -/
inductive PhaseWord (setup : Setup) : Source → (retries : Nat) → List Phase → Prop where
  | stopped (repo : RepoRef) : PhaseWord setup (.repository repo) 0 [.failed]
  | refused (repo : RepoRef) : PhaseWord setup (.repository repo) 0 [.ingesting, .failed]
  | repository (repo : RepoRef) (retries : Nat) {closing : List Phase}
      (hclosing : closing ∈ closingPhases setup) :
      PhaseWord setup (.repository repo) retries
        (.ingesting :: ((List.replicate retries roundPhases).flatten ++ closing))
  | snapshot (snapshot : Snapshot) (retries : Nat) {closing : List Phase}
      (hclosing : closing ∈ closingPhases setup) :
      PhaseWord setup (.snapshot snapshot) retries
        ((List.replicate retries roundPhases).flatten ++ closing)

/-! ## Parts of a survey -/

/-- What the observer sees of a part of a survey: the phases, and the counters of the runs with
which it is told of the analyses and the retries. -/
structure Seen (events : List Event) (word : List Phase) (analyses retries : List Nat) : Prop where
  word : (phases events).map Prod.fst = word
  analyses : countersAt .analyzing events = analyses
  retries : countersAt .retrying events = retries
  status : ∀ seen ∈ phases events, seen.2.status = seen.1.runStatus

section Parts

variable {first rest : List Event} {word word' : List Phase}
  {analyses analyses' retries retries' : List Nat}

theorem seen_nil : Seen [] [] [] [] := ⟨rfl, rfl, rfl, by simp [phases]⟩

/-- Parts that follow each other are seen one after the other. -/
theorem Seen.append (hfirst : Seen first word analyses retries)
    (hrest : Seen rest word' analyses' retries') :
    Seen (first ++ rest) (word ++ word') (analyses ++ analyses') (retries ++ retries') where
  word := by rw [Event.phases_append, List.map_append, hfirst.word, hrest.word]
  analyses := by rw [Event.countersAt_append, hfirst.analyses, hrest.analyses]
  retries := by rw [Event.countersAt_append, hfirst.retries, hrest.retries]
  status := by
    intro seen hseen
    rw [Event.phases_append, List.mem_append] at hseen
    exact hseen.elim (hfirst.status seen) (hrest.status seen)

/-- Only reports are seen. -/
theorem Seen.of_reports {told : List Event} (hreports : Event.reports events = told)
    (h : Seen told word analyses retries) : Seen events word analyses retries := by
  have hphases : phases told = phases events := hreports ▸ Event.phases_reports events
  obtain ⟨hword, hanalyses, hretries, hstatus⟩ := h
  simp only [countersAt, hphases] at hword hanalyses hretries hstatus
  exact ⟨hword, hanalyses, hretries, hstatus⟩

/-- One phase is seen with its run, whose counter matters in an analysis and in a retry. -/
theorem seen_entered (phase : Phase) {run : Run} (hstatus : run.status = phase.runStatus) :
    Seen [.entered phase run] [phase] (if phase = .analyzing then [run.retryCount.toNat] else [])
      (if phase = .retrying then [run.retryCount.toNat] else []) where
  word := rfl
  analyses := by cases phase <;> rfl
  retries := by cases phase <;> rfl
  status := by
    intro seen hseen
    rw [List.mem_singleton.1 hseen]
    exact hstatus

theorem seen_told (evaluation : Evaluation) : Seen [.told evaluation] [] [] [] :=
  ⟨rfl, rfl, rfl, by simp [phases, Event.phase?]⟩

end Parts

/-! ## Rounds -/

/-- Of a pass that is stopped on its way a beginning is seen that can be followed by the failure. -/
theorem seen_halfway {halfway : Progress} {told : List Event}
    (hstatus : progress.run.status = .running)
    (h : Halfway setup snapshot progress halfway told) :
    halfway.run = progress.run ∧ ∃ word analyses,
      word ++ [.failed] ∈ closingPhases setup ∧ analyses <+: [progress.run.retryCount.toNat] ∧
        Seen told word analyses [] := by
  have hanalyzing := seen_entered .analyzing hstatus
  have hfusing := seen_entered .fusing hstatus
  cases h with
  | start => exact ⟨rfl, [], [], by simp [closingPhases], List.nil_prefix, seen_nil⟩
  | analyzed replies =>
      exact ⟨rfl, _, _, by simp [closingPhases], List.prefix_rfl, hanalyzing⟩
  | fused replies hsteps =>
      exact ⟨rfl, _, _, by simp [closingPhases], List.prefix_rfl, hanalyzing.append hfusing⟩

/-- What is seen of a pass that comes to its evaluation. -/
theorem seen_reportsUpTo {run : Run} (hstatus : run.status = .running) (evaluation : Evaluation) :
    Seen (reportsUpTo run evaluation) [.analyzing, .fusing, .evaluating]
      [run.retryCount.toNat] [] :=
  (((seen_entered .analyzing hstatus).append
    (seen_entered .fusing hstatus)).append
      (seen_entered .evaluating hstatus)).append (seen_told evaluation)

/-- What is seen of a pass that is followed by another one. -/
theorem seen_again {next : Progress} (hstatus : progress.run.status = .running)
    (h : (pass setup snapshot progress).Course events (some (.again next))) :
    Seen events roundPhases [progress.run.retryCount.toNat]
        [progress.run.retryCount.toNat + 1] ∧
      next.run.retryCount.toNat = progress.run.retryCount.toNat + 1 ∧
      next.run.status = .running := by
  cases passCourse h with
  | again hfound hopen hnext hreports =>
      rename_i found targets
      have hcount := Run.retried_retryCount hopen targets
      have hretrying := seen_entered .retrying
        (show (progress.run.retried targets).status = .running from hstatus)
      refine ⟨?_, hcount, hstatus⟩
      have hseen := (seen_reportsUpTo hstatus found.evaluation).append hretrying
      rw [if_pos rfl, hcount] at hseen
      exact Seen.of_reports hreports hseen

/-- What is seen of the rounds of a survey: the analyses and the retries are counted on. -/
structure SeenRounds (run : Run) (rounds : List Round) (progress : Progress) : Prop where
  seen : Seen (Round.eventsOf rounds) (List.replicate rounds.length roundPhases).flatten
    (List.range' run.retryCount.toNat rounds.length)
    (List.range' (run.retryCount.toNat + 1) rounds.length)
  retryCount_eq : progress.run.retryCount.toNat = run.retryCount.toNat + rounds.length
  status_eq : progress.run.status = .running

/-- Each round is seen as the phases of a pass that is followed by another one. -/
theorem seenRounds {rounds : List Round} (h : Reaches setup snapshot run rounds progress) :
    SeenRounds run rounds progress := by
  induction h with
  | start entries => exact ⟨seen_nil, rfl, rfl⟩
  | @again rounds before after events earlier round ih =>
      obtain ⟨hround, hcount, hstatus⟩ := seen_again ih.status_eq round
      have hlength : (rounds ++ [(⟨before, events⟩ : Round)]).length = rounds.length + 1 := by simp
      refine ⟨?_, by rw [hcount, ih.retryCount_eq, hlength]; rfl, hstatus⟩
      have hall := ih.seen.append hround
      rw [ih.retryCount_eq] at hall
      rw [hlength, Round.eventsOf_concat, List.replicate_succ', List.flatten_append,
        List.range'_concat, List.range'_concat, Nat.one_mul,
        Nat.add_right_comm run.retryCount.toNat 1]
      simpa using hall

/-! ## The end of a survey -/

/-- What is seen of the last pass and of what follows it. -/
structure SeenClosing (setup : Setup) (run : Run) (events : List Event) (final : Progress) :
    Prop where
  seen : ∃ word analyses, word ∈ closingPhases setup ∧
    analyses <+: [run.retryCount.toNat] ∧ Seen events word analyses []
  retryCount_eq : final.run.retryCount = run.retryCount

/-- Of an abandoned survey the failure is seen. -/
theorem seen_failed (progress : Progress) (error : String) :
    Seen [.entered .failed (progress.fail error).run] [.failed] [] [] :=
  seen_entered .failed rfl

/-- Post-processing is seen if there are post-processors. -/
theorem seen_processing (setup : Setup) {run : Run} (hstatus : run.status = .running) :
    Seen (processing setup run)
      (if setup.postProcessors.isEmpty then [] else [.postProcessing]) [] [] := by
  rw [processing]
  split
  · exact seen_nil
  · exact seen_entered .postProcessing hstatus

/-- Finishing a survey is seen as a failure or as its completion. -/
theorem seen_finish {result : Option Progress} (hstatus : progress.run.status = .running)
    (h : (finish setup progress).Course events result) :
    ∃ final word, result = some final ∧ final.run.retryCount = progress.run.retryCount ∧
      (word = [.failed] ∨ word = finalPhases setup) ∧ Seen events word [] [] := by
  rcases course_finish h with ⟨hreports, rfl⟩ | ⟨entries, hreports, rfl⟩
  · exact ⟨_, _, rfl, rfl, .inl rfl, Seen.of_reports hreports (seen_failed progress _)⟩
  · have hdone : Seen [.entered .done progress.complete.run] [.done] [] [] := seen_entered .done rfl
    refine ⟨_, _, rfl, rfl, .inr rfl, Seen.of_reports hreports ?_⟩
    exact ((seen_entered .accepted hstatus).append
      (seen_processing setup hstatus)).append hdone

/-- A survey that is closed by a last pass from which no panic escapes. -/
theorem seenClosing {result : Option Progress} (hstatus : progress.run.status = .running)
    (h : Closes setup snapshot progress events result)
    (hcontained : ∀ event ∈ events, event.escapes = false) :
    ∃ final, result = some final ∧ SeenClosing setup progress.run events final := by
  cases h with
  | crashed last => exact absurd rfl (course_pass_ne_none last hcontained)
  | abandoned last =>
      cases passCourse last with
      | stopped hhalfway hreports =>
          rename_i halfway told
          obtain ⟨hrun, word, analyses, hword, hanalyses, hseen⟩ := seen_halfway hstatus hhalfway
          have hall := Seen.of_reports hreports (hseen.append (seen_failed halfway _))
          rw [List.append_nil] at hall
          have hcount : halfway.run.retryCount = progress.run.retryCount :=
            congrArg Run.retryCount hrun
          exact ⟨_, rfl, ⟨_, _, hword, hanalyses, hall⟩, hcount⟩
  | accepted last finished =>
      cases passCourse last with
      | accepted hfound hsettle hreports =>
          rename_i found
          have haccepted : (assessed setup snapshot progress found).run.status = .running := hstatus
          obtain ⟨final, word, rfl, hcount, hword, hfinish⟩ := seen_finish haccepted finished
          have hall := (Seen.of_reports hreports
            (seen_reportsUpTo hstatus found.evaluation)).append hfinish
          refine ⟨final, rfl, ⟨_, _, ?_, List.prefix_rfl, hall⟩, hcount⟩
          rcases hword with rfl | rfl <;> simp [closingPhases]

/-! ## Whole surveys -/

/-- What the observer of the survey of a run sees till its end. -/
structure PhaseProtocol (setup : Setup) (run : Run) (source : Source) (events : List Event)
    (final : Progress) : Prop where
  word : ∃ retries, final.run.retryCount.toNat = run.retryCount.toNat + retries ∧
    PhaseWord setup source retries ((phases events).map Prod.fst)
  analyzing : ∀ place count, (countersAt .analyzing events)[place]? = some count →
    count = run.retryCount.toNat + place
  retrying : ∀ place count, (countersAt .retrying events)[place]? = some count →
    count = run.retryCount.toNat + place + 1
  status : ∀ phase run, (phase, run) ∈ phases events → run.status = phase.runStatus

/-- Consecutive counters, and perhaps the next one, are those of their places. -/
theorem counter_eq_of_range' {start length place count : Nat} {last : List Nat}
    (hlast : last <+: [start + length])
    (h : (List.range' start length ++ last)[place]? = some count) : count = start + place := by
  have hprefix : List.range' start length ++ last <+: List.range' start (length + 1) := by
    rw [List.range'_concat, Nat.one_mul]
    exact (List.prefix_append_right_inj _).2 hlast
  obtain ⟨hplace, hcount⟩ := List.getElem?_eq_some_iff.1 h
  rw [← hcount, hprefix.getElem hplace, List.getElem_range', Nat.one_mul]

/-- The protocol of a survey whose snapshot is there, after an opening. -/
theorem phaseProtocol_of_drive {source : Source} {opening : List Event}
    {entries : List StageEntry} {first : List Phase} {result : Option Progress}
    (hopening : Seen opening first [] [])
    (hword : ∀ retries, ∀ closing ∈ closingPhases setup, PhaseWord setup source retries
      (first ++ ((List.replicate retries roundPhases).flatten ++ closing)))
    (hdrive : (drive setup snapshot ((Progress.start run).record entries)).Course events result)
    (hcontained : ∀ event ∈ events, event.escapes = false) :
    ∃ final, result = some final ∧ PhaseProtocol setup run source (opening ++ events) final := by
  obtain ⟨rounds, before, last, hreaches, hcloses, hevents⟩ :=
    course_drive (.start entries) hdrive
  have hsplit : events = Round.eventsOf rounds ++ last := hevents
  subst hsplit
  obtain ⟨hrounds, hcount, hstatus⟩ := seenRounds hreaches
  obtain ⟨final, rfl, ⟨closing, analyses, hmem, hanalyses, hlast⟩, hsame⟩ :=
    seenClosing hstatus hcloses fun event hmem => hcontained event (List.mem_append_right _ hmem)
  have hall := hopening.append (hrounds.append hlast)
  rw [hcount] at hanalyses
  refine ⟨final, rfl, ⟨rounds.length, by rw [hsame, hcount], ?_⟩, ?_, ?_, ?_⟩
  · rw [hall.word]
    exact hword rounds.length closing hmem
  · intro place count hplace
    rw [hall.analyses, List.nil_append] at hplace
    exact counter_eq_of_range' hanalyses hplace
  · intro place count hplace
    rw [hall.retries, List.nil_append] at hplace
    have hnext := counter_eq_of_range' List.nil_prefix hplace
    omega
  · intro phase run hseen
    exact hall.status _ hseen

/-- The protocol of a survey that ends before its first pass. -/
theorem phaseProtocol_of_refused {repo : RepoRef} {word : List Phase} {final : Progress}
    (hseen : Seen events word [] []) (hcount : final.run.retryCount = run.retryCount)
    (hword : PhaseWord setup (.repository repo) 0 word) :
    PhaseProtocol setup run (.repository repo) events final where
  word := ⟨0, by rw [hcount, Nat.add_zero], by rwa [hseen.word]⟩
  analyzing := by simp [hseen.analyses]
  retrying := by simp [hseen.retries]
  status phase run h := hseen.status _ h

/-- While the snapshot is taken its phase is seen, and nothing else. -/
theorem seen_takingEvents {repo : RepoRef} {taking : List Event}
    {result : Option (Except Failure Snapshot)}
    (h : (ingest setup repo (Progress.start run).run).Course taking result) :
    Seen (takingEvents run taking) [.ingesting] [] [] :=
  Seen.of_reports (reports_takingEvents h) (seen_entered .ingesting rfl)

/-- The phases of a survey.  A survey from which no panic escapes shows its observer a word of the
language of phases; the runs that it shows count the retries, and have the status of the phase. -/
theorem phase_protocol (setup : Setup) (run : Run) (source : Source) (events : List Event)
    (result : Option Progress) (hcourse : (carryOut setup run source).Course events result)
    (hcontained : ∀ event ∈ events, event.escapes = false) :
    ∃ final, result = some final ∧ PhaseProtocol setup run source events final := by
  cases source with
  | snapshot snapshot =>
      have hdrive : (drive setup snapshot ((Progress.start run).record [])).Course events result :=
        hcourse
      exact phaseProtocol_of_drive seen_nil (fun retries _ => .snapshot snapshot retries) hdrive
        hcontained
  | repository repo =>
      cases executeCourse hcourse with
      | stopped =>
          have hreports : Event.reports (stopEvents (Progress.start run)) =
              [.entered .failed (stopped (.start run)).run] := rfl
          have hseen := Seen.of_reports hreports (seen_failed (.start run) _)
          exact ⟨_, rfl, phaseProtocol_of_refused hseen rfl (.stopped repo)⟩
      | refused htaking =>
          rename_i failure
          have hfailed : Seen [.entered .failed (refused run failure).run] [.failed] [] [] :=
            seen_failed (.start run) _
          have hseen := (seen_takingEvents htaking).append hfailed
          exact ⟨_, rfl, phaseProtocol_of_refused hseen rfl (.refused repo)⟩
      | crashed hcrash =>
          exact absurd rfl (course_ingest_ne_none hcrash
            fun event hmem => hcontained event (by simp [takingEvents, hmem]))
      | surveyed htaking hdrive =>
          exact phaseProtocol_of_drive (seen_takingEvents htaking)
            (fun retries _ => .repository repo retries) hdrive
            fun event hmem => hcontained event (List.mem_append_right _ hmem)

/-- The survey of two files shows its observer the phases of one retry. -/
theorem phase_protocol_two_files :
    ∃ final,
      ((carryOut TwoFiles.setup TwoFiles.run (.snapshot TwoFiles.snapshot)).run
        TwoFiles.host 0).1 = some final ∧
      PhaseProtocol TwoFiles.setup TwoFiles.run (.snapshot TwoFiles.snapshot)
        ((carryOut TwoFiles.setup TwoFiles.run (.snapshot TwoFiles.snapshot)).events
          TwoFiles.host 0) final :=
  phase_protocol TwoFiles.setup TwoFiles.run (.snapshot TwoFiles.snapshot) _ _
    (Plan.course_run TwoFiles.host _ 0) (TwoFiles.escapes_eq_false _ 0)

end Survey
end CodeSurvey
