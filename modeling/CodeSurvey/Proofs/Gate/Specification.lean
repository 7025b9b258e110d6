import CodeSurvey.Proofs.Gate.Completion

/-!
# What an evaluation says

An evaluation goes over the store four times: it looks for missing summaries, scores what is in
scope, writes the scores, and sums them up.  This file says what comes of it without going over the
store: which score every entity has, what is missing and what is weak, and how the decision is come
to.

## Main results

* `Evaluator.scoredStore_eq`: the scored store is the old one with every entity regraded.
* `Evaluator.Tallied`: what an evaluation says about the scored store.
* `Evaluator.Decided`: where its decision comes from.
* `Evaluator.evaluation_specification`: an evaluation in which no panic escapes, whatever the order
  in which its concurrent calls complete.
-/

namespace CodeSurvey
namespace Evaluator

variable {evaluator : Evaluator} {scope : Option TargetSet} {store scored : Store}
  {events : List Event} {retryCount : UInt32} {evaluation : Evaluation}
  {reply : EntityId → Outcome Failure Vector32}

/-! ## The scored store -/

/-- An evaluation regrades every entity where it is, and changes nothing else. -/
theorem scoredStore_eq (hkeyed : store.Keyed) (reply : EntityId → Outcome Failure Vector32) :
    scoredStore evaluator scope reply store =
      store.mapEntities (evaluator.regraded scope reply) := by
  refine Store.ext_get? (fun id => ?_) (scoredStore_edges hkeyed reply)
  rw [get?_scoredStore hkeyed, Store.get?_mapEntities]

/-- The entities whose summary is not missing, in the order of their keys. -/
def presentEntities (thresholds : Thresholds) (store : Store) : List Entity :=
  store.entities.filter fun entity => !thresholds.isMissing entity.summary

/-- Summaries are as present after an evaluation as they were before. -/
theorem presentEntities_mapEntities :
    presentEntities evaluator.thresholds (store.mapEntities (evaluator.regraded scope reply)) =
      (presentEntities evaluator.thresholds store).map (evaluator.regraded scope reply) := by
  rw [presentEntities, Store.entities_mapEntities, List.filter_map, presentEntities]
  simp only [Function.comp_def, regraded_summary]

theorem keyed_mapEntities (hkeyed : store.Keyed) :
    (store.mapEntities (evaluator.regraded scope reply)).Keyed := by
  intro id entity hentity
  rw [Store.get?_mapEntities] at hentity
  obtain ⟨old, hold, rfl⟩ := Option.map_eq_some_iff.1 hentity
  rw [regraded_id]
  exact hkeyed _ _ hold

/-! ## What is missing -/

/-- What is not missing is present. -/
theorem contributors_eq (hkeyed : store.Keyed) :
    contributors (missingIds evaluator.thresholds store)
        (store.mapEntities (evaluator.regraded scope reply)) =
      presentEntities evaluator.thresholds
        (store.mapEntities (evaluator.regraded scope reply)) := by
  rw [contributors, presentEntities]
  apply List.filter_congr
  intro entity hentity
  rw [(keyed_mapEntities hkeyed).mem_entities_iff, Store.get?_mapEntities] at hentity
  obtain ⟨old, hold, rfl⟩ := Option.map_eq_some_iff.1 hentity
  have hmissing : (missingIds evaluator.thresholds store).contains
      (evaluator.regraded scope reply old).id = true ↔
        evaluator.thresholds.isMissing old.summary = true := by
    rw [contains_missingIds hkeyed, hold]
    simp only [Option.some.injEq, exists_eq_left']
  rw [regraded_summary, Bool.not_inj_iff, Bool.eq_iff_iff, hmissing]

/-- Every missing summary counts once. -/
theorem size_missingIds (hkeyed : store.Keyed) :
    (missingIds evaluator.thresholds store).size =
      (store.entities.filter fun entity => evaluator.thresholds.isMissing entity.summary).length := by
  have hids : (store.entities.map (·.id)).Nodup := by
    rw [hkeyed.map_id_entities]
    exact OrderedMap.keys_nodup _
  rw [← List.length_map (·.id)]
  exact OrderedMap.size_eq_length (hids.sublist (List.filter_sublist.map _))
    fun id => OrderedSet.contains_ofElements _ id

/-! ## The tally -/

/-- What an evaluation says about the stores before and after the scoring. -/
structure Tallied (evaluator : Evaluator) (store scored : Store) (evaluation : Evaluation) :
    Prop where
  missing : ∀ id, evaluation.missing.contains id = true ↔
    ∃ entity, store.get? id = some entity ∧
      evaluator.thresholds.isMissing entity.summary = true
  low : ∀ id, evaluation.low.contains id = true ↔
    ∃ entity, scored.get? id = some entity ∧
      evaluator.thresholds.isMissing entity.summary = false ∧
      entity.score < evaluator.thresholds.perEntity
  disjoint : ∀ id, ¬ (evaluation.missing.contains id = true ∧ evaluation.low.contains id = true)
  retryTargets : ∀ id, evaluation.retryTargets.contains id = true ↔
    evaluation.missing.contains id = true ∨ evaluation.low.contains id = true
  count : evaluation.scored = (presentEntities evaluator.thresholds scored).length
  scored_add_missing : evaluation.scored + evaluation.missing.size = store.size
  ascending : (scored.entities.map (·.id)).Pairwise fun a b => compare a b = .lt
  aggregate : evaluation.aggregate =
    if evaluation.scored = 0 then 0
    else
      (presentEntities evaluator.thresholds scored).foldl (fun total entity => total + entity.score)
        0 / Float32.ofNat evaluation.scored

theorem contains_low_tally (hkeyed : store.Keyed) (decision : Decision) (id : EntityId) :
    (evaluator.tally store (store.mapEntities (evaluator.regraded scope reply))
      decision).low.contains id = true ↔
        ∃ entity, (store.mapEntities (evaluator.regraded scope reply)).get? id = some entity ∧
          evaluator.thresholds.isMissing entity.summary = false ∧
          entity.score < evaluator.thresholds.perEntity := by
  have hscored : (store.mapEntities (evaluator.regraded scope reply)).Keyed :=
    keyed_mapEntities hkeyed
  simp only [tally, lowIds, OrderedSet.contains_ofElements, contributors_eq hkeyed,
    presentEntities, List.mem_map, List.mem_filter, hscored.mem_entities_iff, Bool.not_eq_true',
    decide_eq_true_eq]
  constructor
  · rintro ⟨entity, ⟨⟨hentity, hpresent⟩, hlow⟩, rfl⟩
    exact ⟨entity, hentity, hpresent, hlow⟩
  · rintro ⟨entity, hentity, hpresent, hlow⟩
    have hid := hscored _ _ hentity
    rw [← hid] at hentity
    exact ⟨entity, ⟨⟨hentity, hpresent⟩, hlow⟩, hid⟩

theorem tallied (hkeyed : store.Keyed) (decision : Decision) :
    Tallied evaluator store (store.mapEntities (evaluator.regraded scope reply))
      (evaluator.tally store (store.mapEntities (evaluator.regraded scope reply)) decision) := by
  refine ⟨contains_missingIds hkeyed, contains_low_tally hkeyed decision, ?_, ?_, ?_, ?_, ?_,
    ?_⟩
  · rintro id ⟨hmissing, hlow⟩
    obtain ⟨entity, hentity, hnone⟩ := (contains_missingIds hkeyed id).1 hmissing
    obtain ⟨_, hother, hsome, _⟩ := (contains_low_tally hkeyed decision id).1 hlow
    rw [Store.get?_mapEntities, hentity, Option.map_some, Option.some.injEq] at hother
    rw [← hother, regraded_summary, hnone] at hsome
    cases hsome
  · intro id
    rw [Evaluation.retryTargets, OrderedSet.contains_union, or_comm]
  · exact congrArg List.length (contributors_eq hkeyed)
  · change (contributors _ _).length + (missingIds _ _).size = store.entries.entries.length
    rw [contributors_eq hkeyed, presentEntities_mapEntities, List.length_map, presentEntities,
      size_missingIds hkeyed, Nat.add_comm, ← List.length_eq_length_filter_add, Store.entities,
      OrderedMap.values, List.length_map]
  · rw [(keyed_mapEntities hkeyed).map_id_entities]
    exact OrderedMap.keys_pairwise _
  · simp only [tally, contributors_eq hkeyed, mean, List.isEmpty_iff, List.map_eq_nil_iff,
      List.length_eq_zero_iff, List.foldl_map, List.length_map]

/-! ## The decision -/

/-- Where the decision of an evaluation comes from.  Only a store in which nothing is missing is
brought before the strategy; any other evaluation is the same with every strategy. -/
structure Decided (evaluator : Evaluator) (scope : Option TargetSet) (retryCount : UInt32)
    (store scored : Store) (events : List Event) (evaluation : Evaluation) : Prop where
  ofEmpty : store.isEmpty = true →
    events = [] ∧ scored = store ∧ evaluation.decision = .retryAll ∧ evaluation.aggregate = 0
  ofMissing : evaluation.missing.isEmpty = false →
    evaluation.decision = .retrySubset ∧
      ∃ fresh, (evaluator.scorePlan scope store).Course events (some fresh)
  unconsulted : store.isEmpty = true ∨ evaluation.missing.isEmpty = false →
    ∀ strategy : Strategy, ({ evaluator with strategy := strategy }.evaluate store scope
      retryCount).Course events (some (scored, evaluation))
  consulted : store.isEmpty = false → evaluation.missing.isEmpty = true →
    ∃ scoring deciding fresh, events = scoring ++ deciding ∧
      (evaluator.scorePlan scope store).Course scoring (some fresh) ∧
      (evaluator.strategy.decide {
        aggregate := evaluation.aggregate
        low := evaluation.low
        entityCount := scored.size
        retryCount := retryCount
        thresholds := evaluator.thresholds }).Course deciding (some evaluation.decision)

/-- Where the strategy is not consulted it does not matter. -/
theorem evaluate_with_strategy
    (h : store.isEmpty = true ∨ (missingIds evaluator.thresholds store).isEmpty = false)
    (strategy : Strategy) :
    { evaluator with strategy := strategy }.evaluate store scope retryCount =
      evaluator.evaluate store scope retryCount := by
  cases hstore : store.isEmpty with
  | true =>
      rw [evaluate_of_isEmpty hstore, evaluate_of_isEmpty hstore]
      rfl
  | false =>
      have hmissing : (missingIds evaluator.thresholds store).isEmpty = false := by
        simpa [hstore] using h
      rw [evaluate_of_not_isEmpty hstore, evaluate_of_not_isEmpty hstore]
      simp only [verdict, hstore, hmissing, Bool.false_eq_true, Bool.not_false, if_false, if_true]
      rfl

/-- The calls of a scoring come before those of the verdict. -/
theorem course_evaluate_parts (hstore : store.isEmpty = false)
    (h : (evaluator.evaluate store scope retryCount).Course events (some (scored, evaluation))) :
    ∃ scoring deciding fresh, events = scoring ++ deciding ∧
      (evaluator.scorePlan scope store).Course scoring (some fresh) ∧
      (evaluator.verdict retryCount store scored).Course deciding (some evaluation.decision) := by
  rw [evaluate_of_not_isEmpty hstore, Plan.course_bind_iff] at h
  rcases h with ⟨fresh, scoring, rest, hfresh, hrest, rfl⟩ | ⟨_, ⟨⟩⟩
  rw [Plan.course_bind_iff] at hrest
  rcases hrest with ⟨decision, deciding, last, hdeciding, hlast, rfl⟩ | ⟨_, ⟨⟩⟩
  simp only [Plan.course_done_iff, Option.some.injEq, Prod.mk.injEq] at hlast
  obtain ⟨rfl, rfl, rfl⟩ := hlast
  rw [List.append_nil]
  exact ⟨scoring, deciding, fresh, rfl, hfresh, hdeciding⟩

theorem decided
    (h : (evaluator.evaluate store scope retryCount).Course events (some (scored, evaluation))) :
    Decided evaluator scope retryCount store scored events evaluation := by
  obtain ⟨htally, -⟩ := course_verdict h
  have hmissing : evaluation.missing = missingIds evaluator.thresholds store := by
    rw [htally]
    rfl
  refine ⟨?_, ?_, ?_, ?_⟩
  · intro hstore
    rw [evaluate_of_isEmpty hstore] at h
    simp only [Plan.course_done_iff, Option.some.injEq, Prod.mk.injEq] at h
    obtain ⟨rfl, rfl, rfl⟩ := h
    refine ⟨rfl, rfl, rfl, ?_⟩
    simp only [tally, contributors, entities_eq_nil hstore]
    rfl
  · intro hsome
    rw [hmissing] at hsome
    cases hstore : store.isEmpty with
    | true =>
        rw [missingIds, entities_eq_nil hstore] at hsome
        cases hsome
    | false =>
        obtain ⟨scoring, deciding, fresh, rfl, hfresh, hverdict⟩ := course_evaluate_parts hstore h
        simp only [verdict, hstore, hsome, Bool.false_eq_true, Bool.not_false, if_false, if_true,
          Plan.course_done_iff, Option.some.injEq] at hverdict
        obtain ⟨rfl, hdecision⟩ := hverdict
        rw [List.append_nil]
        exact ⟨hdecision, fresh, hfresh⟩
  · intro hunconsulted strategy
    rw [hmissing] at hunconsulted
    rw [evaluate_with_strategy hunconsulted]
    exact h
  · intro hstore hnone
    obtain ⟨scoring, deciding, fresh, rfl, hfresh, hverdict⟩ := course_evaluate_parts hstore h
    refine ⟨scoring, deciding, fresh, rfl, hfresh, ?_⟩
    rw [hmissing] at hnone
    simp only [verdict, hstore, hnone, Bool.false_eq_true, Bool.not_true, if_false] at hverdict
    rw [htally]
    exact hverdict

/-- A stored entity is found missing exactly if its summary counts as missing, and then a selective
retry is asked for. -/
theorem missing_of_course (hkeyed : store.Keyed) {id : EntityId} {entity : Entity}
    (hentity : store.get? id = some entity)
    (h : (evaluator.evaluate store scope retryCount).Course events (some (scored, evaluation))) :
    (evaluation.missing.contains id = true ↔
      evaluator.thresholds.isMissing entity.summary = true) ∧
    (evaluator.thresholds.isMissing entity.summary = true →
      evaluation.decision = .retrySubset) := by
  have hmissing : evaluation.missing.contains id = true ↔
      evaluator.thresholds.isMissing entity.summary = true := by
    rw [(course_verdict h).1, tally, contains_missingIds hkeyed, hentity]
    simp only [Option.some.injEq, exists_eq_left']
  refine ⟨hmissing, ?_⟩
  intro hentityMissing
  have hsome := (OrderedMap.isEmpty_eq_false_iff _).2 ⟨id, hmissing.2 hentityMissing⟩
  exact ((decided h).ofMissing hsome).1

/-! ## Evaluations -/

/-- An evaluation from which no panic escapes comes to an end, and whatever the order in which its
concurrent calls complete it regrades every entity by the reply about it and says what there is to
say about the scored store. -/
theorem evaluation_specification (hkeyed : store.Keyed)
    {arrive : List (EntityId × Float32) → List (EntityId × Float32)}
    (harrive : ∀ jobs, Pool.Completes (max evaluator.maxConcurrentCalls 1) jobs (arrive jobs))
    {result : Option (Store × Evaluation)}
    (hcourse : (evaluator.evaluateArriving arrive store scope retryCount).Course events result)
    (hcontained : ∀ event ∈ events, event.escapes = false) :
    ∃ scored evaluation reply, result = some (scored, evaluation) ∧
      (evaluator.evaluate store scope retryCount).Course events (some (scored, evaluation)) ∧
      Replied evaluator scope store events reply ∧
      scored = store.mapEntities (evaluator.regraded scope reply) ∧
      Tallied evaluator store scored evaluation ∧
      Decided evaluator scope retryCount store scored events evaluation := by
  rw [evaluateArriving_eq hkeyed harrive] at hcourse
  cases result with
  | none =>
      obtain ⟨event, hevent, hescapes⟩ := (calls_evaluate.eq_none_iff hcourse).1 rfl
      rw [hcontained event hevent] at hescapes
      cases hescapes
  | some result =>
      obtain ⟨scored, evaluation⟩ := result
      obtain ⟨reply, hreplied, hscored, htally⟩ := course_evaluate hkeyed hcourse
      rw [scoredStore_eq hkeyed] at hscored
      refine ⟨scored, evaluation, reply, rfl, hcourse, hreplied, hscored, ?_, decided hcourse⟩
      rw [htally, hscored]
      exact tallied hkeyed _

end Evaluator

/-! ## A store of four files -/

namespace FourFiles

def evaluator : Evaluator where
  similarity := .cosine
  strategy := .threshold
  thresholds := {
    systemic := 0.5
    perEntity := 0.6
    borderlineUpper := 0.8
    minSummaryLength := 3
    errorMarkers := []
    neutral := 0.5 }
  maxConcurrentCalls := 2

/-- A file with a vector, a summary and a score. -/
def file (name summary : String) (score : Float32) : Entity :=
  { Entity.new ⟨name⟩ .file with summary := summary, embedding := [1, 0], score := score }

/-- The first file has lost its summary, and the last one has a low score from an earlier pass. -/
def store : Store :=
  Store.empty.upsertAll [file "a.py" "" 0.9, file "b.py" "Reads." 0, file "c.py" "Writes." 0,
    file "d.py" "Prints." 0.25]

/-- The scope leaves out the last file. -/
def scope : Option TargetSet :=
  some (OrderedSet.ofElements [⟨"a.py"⟩, ⟨"b.py"⟩, ⟨"c.py"⟩])

/-- A host that embeds the first text and answers about no other in time. -/
def host : Host Unit where
  cancelled _ := false
  answer
    | .embedTexts .., state => (fun place => if place = 0 then .ok [1, 0] else .timedOut, state)
    | request, state => (request.anyAnswer, state)

/-- The call about the second job completes before that about the first one. -/
def arrive {α : Type} : List α → List α
  | first :: second :: rest => second :: first :: rest
  | jobs => jobs

/-- Two slots are enough for the second job to overtake the first one. -/
theorem completes_arrive {α : Type} (jobs : List α) : Pool.Completes 2 jobs (arrive jobs) := by
  match jobs with
  | [] => exact .refl
  | [job] => exact Pool.steps_in_turn (by decide) [job] []
  | first :: second :: rest =>
      have hrest : Pool.Steps 2 ⟨rest, [], [second, first]⟩ ⟨[], [], second :: first :: rest⟩ :=
        Pool.steps_in_turn (by decide) rest [second, first]
      refine .head (.start (by simp)) (.head (.start (by simp)) ?_)
      refine .head (@Pool.Step.complete α 2 second rest [first] [] []) ?_
      exact .head (@Pool.Step.complete α 2 first rest [] [] [second]) hrest

def plan : Plan (Store × Evaluation) := evaluator.evaluateArriving arrive store scope 0

theorem escapes_eq_false : ∀ event ∈ plan.events host (), event.escapes = false := by
  apply Plan.forall_mem_events
  · intro cancelled
    rfl
  · intro request state
    cases request with
    | embedTexts texts limit =>
        simp only [Event.escapes, host, List.any_eq_false]
        intro place _
        split <;> simp [Evaluator.panicked]
    | _ => rfl

end FourFiles

/-- The scores of the second and the third file arrive in reverse order; the first file is missing,
and the last one keeps its low score. -/
theorem Evaluator.evaluation_specification_four_files :
    ∃ scored evaluation reply,
      (FourFiles.plan.run FourFiles.host ()).1 = some (scored, evaluation) ∧
      scored = FourFiles.store.mapEntities (FourFiles.evaluator.regraded FourFiles.scope reply) ∧
      Tallied FourFiles.evaluator FourFiles.store scored evaluation ∧
      Decided FourFiles.evaluator FourFiles.scope 0 FourFiles.store scored
        (FourFiles.plan.events FourFiles.host ()) evaluation ∧
      scored.entities.map (·.score) = [0, 1, 0.5, 0.25] ∧
      evaluation.decision = .retrySubset ∧
      evaluation.retryTargets.keys = [⟨"a.py"⟩, ⟨"c.py"⟩, ⟨"d.py"⟩] := by
  have hvalues : (FourFiles.plan.run FourFiles.host ()).1.map (fun result =>
      (result.1.entities.map (·.score), result.2.decision, result.2.retryTargets.keys)) =
        some ([0, 1, 0.5, 0.25], .retrySubset, [⟨"a.py"⟩, ⟨"c.py"⟩, ⟨"d.py"⟩]) := by
    decide +kernel
  obtain ⟨scored, evaluation, reply, hresult, -, -, hscored, htallied, hdecided⟩ :=
    evaluation_specification (Store.keyed_empty.upsertAll _) FourFiles.completes_arrive
      (Plan.course_run FourFiles.host FourFiles.plan ()) FourFiles.escapes_eq_false
  rw [hresult, Option.map_some, Option.some.injEq, Prod.mk.injEq, Prod.mk.injEq] at hvalues
  exact ⟨scored, evaluation, reply, hresult, hscored, htallied, hdecided, hvalues⟩

end CodeSurvey
