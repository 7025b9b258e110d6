import CodeSurvey.Gate.Evaluator
import CodeSurvey.Proofs.Capability.Protocol
import CodeSurvey.Proofs.Judge.Verdict
import CodeSurvey.Proofs.Store

/-!
# What an evaluation does

An evaluation asks for the embeddings of summaries, and perhaps for a decision.  Given the replies,
one for each identity, it gives every stored entity a new score and changes nothing else.  This
file states the score of each entity, and what the evaluation says about the scored store.

## Main results

* `Evaluator.regraded`: an entity after an evaluation, by the reply for its identity.
* `Evaluator.course_evaluate`: the scored store and the evaluation at the end of every course.
* `Evaluator.calls_evaluate`: an evaluation only makes calls, and crashes exactly when a panic
  escapes from one of them.
-/

namespace CodeSurvey

/-- Whether a callee panicked in a call whose panic nothing contains.  The panics of stages, of the
ladder and of post-processors are contained. -/
def Event.escapes : Event → Bool
  | .answered (.materialize ..) .panicked => true
  | .answered .judgeAvailable .panicked => true
  | .answered (.askJudge ..) .panicked => true
  | .answered (.embedTexts texts _) answer =>
      (List.range texts.length).any fun place => Evaluator.panicked (answer place)
  | _ => false

/-! ## Plans that only make calls -/

/-- The protocol of calls.  The state says whether a panic has escaped, after which nothing more
happens. -/
inductive Calling : Bool → Event → Bool → Prop where
  | answered {event : Event} (hcall : event.isCall = true) (h : event.escapes = false) :
      Calling false event false
  | escaped {event : Event} (hcall : event.isCall = true) (h : event.escapes = true) :
      Calling false event true

theorem Calling.isCall {before after : Bool} {event : Event} (h : Calling before event after) :
    event.isCall = true := by
  cases h <;> assumption

/-- A panic has escaped at the end if it had at the start or does so on the way. -/
theorem Calling.path_iff {before after : Bool} {events : List Event}
    (h : Plan.Path Calling before events after) :
    after = true ↔ before = true ∨ ∃ event ∈ events, event.escapes = true := by
  induction h with
  | nil before => simp
  | cons move rest ih =>
      cases move with
      | answered hcall hcontained => simpa [hcontained] using ih
      | escaped hcall hescapes =>
          have hbroken := ih.2 (.inl rfl)
          simp [hbroken, hescapes]

namespace Plan

variable {α β : Type}

/-- Whether a plan only makes calls, and crashes exactly where a panic escapes. -/
def Calls (plan : Plan α) : Prop :=
  plan.Follows Calling (fun broken result => result = none ↔ broken = true) false

/-- A plan that is done makes no calls and does not crash. -/
theorem calls_done (value : α) : (Plan.done value).Calls := by
  simp [Calls]

/-- A call crashes the plan if a panic escapes from it. -/
theorem calls_ask {request : Request} {next : request.Answer → Plan α}
    (hcall : ∀ answer, (Event.answered request answer).isCall = true)
    (hcrash : ∀ answer, (Event.answered request answer).escapes = true → next answer = .crash)
    (hnext : ∀ answer, (Event.answered request answer).escapes = false → (next answer).Calls) :
    (Plan.ask request next).Calls := by
  intro answer
  cases hescapes : (Event.answered request answer).escapes with
  | false => exact ⟨false, .answered (hcall answer) hescapes, hnext answer hescapes⟩
  | true =>
      refine ⟨true, .escaped (hcall answer) hescapes, ?_⟩
      rw [hcrash answer hescapes]
      simp

/-- Plans that only make calls may follow each other. -/
theorem Calls.bind {plan : Plan α} {next : α → Plan β} (hplan : plan.Calls)
    (hnext : ∀ value, (next value).Calls) : (plan.bind next).Calls := by
  refine Follows.bind hplan ?_ ?_
  · intro broken value hvalue
    have hunbroken : broken = false := by simpa using hvalue
    rw [hunbroken]
    exact hnext value
  · intro broken hcrash
    simpa using hcrash

/-- Such a plan crashes if and only if a panic escapes. -/
theorem Calls.eq_none_iff {plan : Plan α} (hplan : plan.Calls) {events : List Event}
    {result : Option α} (hcourse : plan.Course events result) :
    result = none ↔ ∃ event ∈ events, event.escapes = true := by
  obtain ⟨broken, hpath, hends⟩ := hplan.exists_path hcourse
  rw [hends, Calling.path_iff hpath]
  simp

/-- In every course of a plan that only makes calls there is nothing else. -/
theorem Calls.isCall {plan : Plan α} (hplan : plan.Calls) {events : List Event}
    {result : Option α} (hcourse : plan.Course events result) :
    ∀ event ∈ events, event.isCall = true :=
  Follows.forall_mem hplan (fun _ _ _ h => h.isCall) hcourse

/-- A plan that only makes calls tells the observer nothing. -/
theorem Calls.silent {plan : Plan α} (hplan : plan.Calls) : plan.Silent :=
  fun _ _ hcourse => Event.reports_eq_nil_of_isCall (hplan.isCall hcourse)

end Plan

/-! ## Calls of the gate -/

/-- Whether an evaluation has asked for something: embeddings of summaries, or a decision. -/
def Event.isGateCall : Event → Bool
  | .answered (.embedTexts ..) _ => true
  | .answered .judgeAvailable _ => true
  | .answered (.askJudge ..) _ => true
  | .answered (.decide _) _ => true
  | _ => false

/-- The protocol of an evaluation: it asks for what it needs, and nothing else happens. -/
abbrev GateCalls (_ : Unit) (event : Event) (_ : Unit) : Prop := event.isGateCall = true

namespace Strategy

/-- Consulting the judge asks the judge, and nobody else. -/
theorem follows_consultJudge (context : DecisionContext) :
    (consultJudge context).Follows GateCalls (fun _ _ => True) () := by
  intro available
  refine ⟨(), rfl, ?_⟩
  rcases available with (_ | _) | _ | _ | _
  · trivial
  · intro content
    refine ⟨(), rfl, ?_⟩
    cases content <;> trivial
  · trivial
  · trivial
  · trivial

/-- Every strategy keeps to the calls of the gate. -/
theorem follows_decide (strategy : Strategy) (context : DecisionContext) :
    (strategy.decide context).Follows GateCalls (fun _ _ => True) () := by
  cases strategy with
  | threshold => trivial
  | custom name => exact fun _ => ⟨(), rfl, trivial⟩
  | consult =>
      rw [decide]
      split
      · refine (follows_consultJudge context).bind ?_ fun _ _ => trivial
        intro _ verdict _
        cases verdict <;> trivial
      · trivial

/-- Consulting the judge makes nothing but calls. -/
theorem calls_consultJudge (context : DecisionContext) : (consultJudge context).Calls := by
  refine Plan.calls_ask (fun _ => rfl) ?_ ?_
  · intro available hescapes
    cases available with
    | panicked => rfl
    | _ => simp [Event.escapes] at hescapes
  intro available hcontained
  rcases available with (_ | _) | _ | _ | _
  · exact Plan.calls_done _
  · refine Plan.calls_ask (fun _ => rfl) ?_ ?_
    · intro content hescapes
      cases content with
      | panicked => rfl
      | _ => simp [Event.escapes] at hescapes
    · intro content hcontained
      cases content with
      | panicked => simp [Event.escapes] at hcontained
      | _ => exact Plan.calls_done _
  · exact Plan.calls_done _
  · exact Plan.calls_done _
  · simp [Event.escapes] at hcontained

/-- Deciding makes nothing but calls. -/
theorem calls_decide (strategy : Strategy) (context : DecisionContext) :
    (strategy.decide context).Calls := by
  cases strategy with
  | threshold => exact Plan.calls_done _
  | custom name =>
      refine Plan.calls_ask (fun _ => rfl) ?_ fun _ _ => Plan.calls_done _
      intro _ hescapes
      simp [Event.escapes] at hescapes
  | consult =>
      rw [decide]
      split
      · refine (calls_consultJudge context).bind ?_
        intro verdict
        cases verdict <;> exact Plan.calls_done _
      · exact Plan.calls_done _

/-! ## Selective retries -/

/-- The thresholds ask for a selective retry only if there are weak entities. -/
theorem classify_eq_retrySubset {context : DecisionContext}
    (h : context.classify = .retrySubset) : context.low.isEmpty = false := by
  rw [DecisionContext.classify] at h
  split at h
  · cases h
  · split at h
    · rename_i hlow
      simpa using hlow
    · cases h

/-- The judge cannot ask for a selective retry. -/
theorem consultJudge_ne_retrySubset {context : DecisionContext} {events : List Event}
    (h : (consultJudge context).Course events (some (some .retrySubset))) : False := by
  simp only [consultJudge, Plan.request, Plan.bind_eq, Plan.ask_bind, Plan.done_bind,
    Plan.course_ask_iff] at h
  obtain ⟨available, rest, hrest, _⟩ := h
  rcases available with (_ | _) | _ | _ | _
  · simp at hrest
  · simp only [Plan.course_ask_iff] at hrest
    obtain ⟨content, last, hlast, _⟩ := hrest
    cases content with
    | ok content =>
        simp only [Plan.pure_eq_done, Plan.course_done_iff, Option.some.injEq] at hlast
        exact Judge.verdict?_ne_retrySubset content hlast.2.symm
    | _ => simp at hlast
  · simp at hrest
  · simp at hrest
  · simp at hrest

/-- Of the caller's own strategies nothing is known.  The others ask for a selective retry only if
some score is low. -/
theorem course_decide_retrySubset {strategy : Strategy} (hbuiltin : ∀ name, strategy ≠ .custom name)
    {context : DecisionContext} {events : List Event}
    (h : (strategy.decide context).Course events (some .retrySubset)) :
    context.low.isEmpty = false := by
  cases strategy with
  | custom name => exact absurd rfl (hbuiltin name)
  | threshold =>
      simp only [decide, Plan.pure_eq_done, Plan.course_done_iff, Option.some.injEq] at h
      exact classify_eq_retrySubset h.2.symm
  | consult =>
      rw [decide] at h
      split at h
      · rw [Plan.bind_eq, Plan.course_bind_iff] at h
        rcases h with ⟨verdict, _, _, hverdict, hlast, _⟩ | ⟨_, ⟨⟩⟩
        cases verdict with
        | some decision =>
            simp only [Plan.pure_eq_done, Plan.course_done_iff, Option.some.injEq] at hlast
            rw [← hlast.2] at hverdict
            exact (consultJudge_ne_retrySubset hverdict).elim
        | none =>
            simp only [Plan.pure_eq_done, Plan.course_done_iff, Option.some.injEq] at hlast
            exact classify_eq_retrySubset hlast.2.symm
      · simp only [Plan.pure_eq_done, Plan.course_done_iff, Option.some.injEq] at h
        exact classify_eq_retrySubset h.2.symm

end Strategy

namespace Evaluator

variable {evaluator : Evaluator} {scope : Option TargetSet} {store : Store} {events : List Event}
  {retryCount : UInt32}

/-! ## Fresh scores -/

/-- The entities whose summaries are embedded in a scoring. -/
def embedded (evaluator : Evaluator) (scope : Option TargetSet) (store : Store) : List Entity :=
  (scoredEntities evaluator.thresholds scope store).filter Entity.hasEmbedding

/-- The request that a scoring makes if there is anything to embed. -/
def embedRequest (evaluator : Evaluator) (scope : Option TargetSet) (store : Store) : Request :=
  .embedTexts ((embedded evaluator scope store).map (·.summary))
    (max evaluator.maxConcurrentCalls 1)

/-- The score of an entity in scope, by the reply about its summary.  Without an embedding of its
own there is nothing to compare the summary with. -/
def freshScore (evaluator : Evaluator) (reply : Outcome Failure Vector32) (entity : Entity) :
    Float32 :=
  if entity.hasEmbedding then
    score evaluator.thresholds evaluator.similarity entity.embedding reply
  else evaluator.thresholds.neutral

/-- Whether the events tell, for each entity whose summary is embedded, the reply about it. -/
def Replied (evaluator : Evaluator) (scope : Option TargetSet) (store : Store)
    (events : List Event) (reply : EntityId → Outcome Failure Vector32) : Prop :=
  embedded evaluator scope store ≠ [] →
    ∃ answer : Nat → Outcome Failure Vector32,
      .answered (embedRequest evaluator scope store) answer ∈ events ∧
        ∀ place entity, (embedded evaluator scope store)[place]? = some entity →
          reply entity.id = answer place

/-- Answers by place can be read as replies by identity when no identity occurs twice. -/
theorem exists_reply (answer : Nat → Outcome Failure Vector32) {entities : List Entity}
    (hnodup : (entities.map (·.id)).Nodup) :
    ∃ reply : EntityId → Outcome Failure Vector32,
      ∀ place entity, entities[place]? = some entity → reply entity.id = answer place := by
  refine ⟨fun id => answer ((entities.map (·.id)).idxOf id), ?_⟩
  intro place entity hplace
  obtain ⟨hlt, rfl⟩ := List.getElem?_eq_some_iff.1 hplace
  have hidx := hnodup.idxOf_getElem place (by simpa using hlt)
  rw [List.getElem_map] at hidx
  exact congrArg answer hidx

/-- The scores of a list of entities, one by one. -/
theorem scores_eq_map (answer : Nat → Outcome Failure Vector32)
    (reply : EntityId → Outcome Failure Vector32) (entities : List Entity) (place : Nat)
    (h : ∀ i entity, (entities.filter Entity.hasEmbedding)[i]? = some entity →
      reply entity.id = answer (place + i)) :
    scores evaluator.thresholds evaluator.similarity answer place entities =
      entities.map fun entity => (entity.id, freshScore evaluator (reply entity.id) entity) := by
  induction entities generalizing place with
  | nil => rfl
  | cons entity rest ih =>
      rw [scores, List.map_cons, freshScore]
      by_cases hembedding : entity.hasEmbedding = true
      · rw [List.filter_cons_of_pos hembedding] at h
        have hhead : reply entity.id = answer place := h 0 entity rfl
        have hrest : ∀ i other, (rest.filter Entity.hasEmbedding)[i]? = some other →
            reply other.id = answer (place + 1 + i) := by
          intro i other hother
          rw [Nat.add_assoc, Nat.add_comm 1 i]
          exact h (i + 1) other hother
        rw [if_pos hembedding, if_pos hembedding, hhead, ih (place + 1) hrest]
      · rw [List.filter_cons_of_neg hembedding] at h
        rw [if_neg hembedding, if_neg hembedding, ih place h]

/-- Among keyed entities none is scored twice. -/
theorem nodup_scoredEntities (hkeyed : store.Keyed) :
    ((scoredEntities evaluator.thresholds scope store).map (·.id)).Nodup := by
  have hids : (store.entities.map (·.id)).Nodup := by
    rw [hkeyed.map_id_entities]
    exact OrderedMap.keys_nodup _
  exact hids.sublist (List.filter_sublist.map _)

/-- A scoring that does not crash scores each entity in scope by the reply about it. -/
theorem course_scorePlan (hkeyed : store.Keyed) {fresh : List (EntityId × Float32)}
    (h : (evaluator.scorePlan scope store).Course events (some fresh)) :
    ∃ reply, Replied evaluator scope store events reply ∧
      fresh = (scoredEntities evaluator.thresholds scope store).map fun entity =>
        (entity.id, freshScore evaluator (reply entity.id) entity) := by
  have hnodup : ((embedded evaluator scope store).map (·.id)).Nodup :=
    (nodup_scoredEntities hkeyed).sublist (List.filter_sublist.map _)
  rw [scorePlan] at h
  split at h
  · rename_i hempty
    obtain ⟨reply, hreply⟩ := exists_reply (fun _ => .timedOut) hnodup
    simp only [Plan.pure_eq_done, Plan.course_done_iff, Option.some.injEq] at h
    refine ⟨reply, ?_, ?_⟩
    · intro hne
      exact absurd (by simpa [embedded] using hempty) hne
    · rw [h.2]
      exact scores_eq_map _ reply _ 0 (by simpa [embedded] using hreply)
  · simp only [Plan.request, Plan.bind_eq, Plan.ask_bind, Plan.done_bind,
      Plan.course_ask_iff] at h
    obtain ⟨answer, rest, hrest, rfl⟩ := h
    split at hrest
    · simp at hrest
    · obtain ⟨reply, hreply⟩ := exists_reply answer hnodup
      simp only [Plan.pure_eq_done, Plan.course_done_iff, Option.some.injEq] at hrest
      refine ⟨reply, ?_, ?_⟩
      · intro _
        exact ⟨answer, List.mem_cons_self, hreply⟩
      · rw [hrest.2]
        exact scores_eq_map _ reply _ 0 (by simpa [embedded] using hreply)

/-! ## The scored store -/

/-- An entity after an evaluation: zero for a missing summary, a fresh score in scope, and the old
score out of scope. -/
def regraded (evaluator : Evaluator) (scope : Option TargetSet)
    (reply : EntityId → Outcome Failure Vector32) (entity : Entity) : Entity :=
  if evaluator.thresholds.isMissing entity.summary then withScore 0 entity
  else if inScope scope entity.id then
    withScore (freshScore evaluator (reply entity.id) entity) entity
  else entity

@[simp]
theorem withScore_withScore (x y : Float32) (entity : Entity) :
    withScore x (withScore y entity) = withScore x entity :=
  rfl

/-- Writing scores for a list of identities writes them exactly there. -/
theorem get?_foldl_withScore (grade : EntityId → Float32) (ids : List EntityId) (store : Store)
    (id : EntityId) :
    (ids.foldl (fun store id => store.modify id (withScore (grade id))) store).get? id =
      (store.get? id).map fun entity =>
        if id ∈ ids then withScore (grade id) entity else entity := by
  induction ids generalizing store with
  | nil => simp
  | cons first rest ih =>
      rw [List.foldl_cons, ih, Store.get?_modify]
      by_cases hfirst : id = first
      · subst hfirst
        rw [if_pos rfl, Option.map_map]
        congr 1
        funext entity
        by_cases hrest : id ∈ rest <;> simp [hrest]
      · simp [hfirst]

/-- Writing scores leaves the edges alone. -/
theorem foldl_withScore_edges (grade : EntityId → Float32) (ids : List EntityId) (store : Store) :
    (ids.foldl (fun store id => store.modify id (withScore (grade id))) store).edges =
      store.edges := by
  induction ids generalizing store with
  | nil => rfl
  | cons first rest ih => exact ih _

/-- An identity is missing exactly if its stored summary is. -/
theorem contains_missingIds (hkeyed : store.Keyed) (id : EntityId) :
    (missingIds evaluator.thresholds store).contains id = true ↔
      ∃ entity, store.get? id = some entity ∧
        evaluator.thresholds.isMissing entity.summary = true := by
  rw [missingIds, OrderedSet.contains_ofElements]
  simp only [List.mem_map, List.mem_filter, hkeyed.mem_entities_iff]
  constructor
  · rintro ⟨entity, ⟨hentity, hmissing⟩, rfl⟩
    exact ⟨entity, hentity, hmissing⟩
  · rintro ⟨entity, hentity, hmissing⟩
    have hid := hkeyed _ _ hentity
    refine ⟨entity, ⟨?_, hmissing⟩, hid⟩
    rw [hid]
    exact hentity

/-- The entities that are scored are those in scope whose summary is not missing. -/
theorem mem_scoredEntities (hkeyed : store.Keyed) {id : EntityId} {entity : Entity}
    (hentity : store.get? id = some entity) :
    id ∈ (scoredEntities evaluator.thresholds scope store).map (·.id) ↔
      evaluator.thresholds.isMissing entity.summary = false ∧ inScope scope id = true := by
  simp only [scoredEntities, List.mem_map, List.mem_filter, hkeyed.mem_entities_iff,
    Bool.and_eq_true, Bool.not_eq_true']
  constructor
  · rintro ⟨other, ⟨hother, hmissing, hscope⟩, rfl⟩
    rw [hentity, Option.some.injEq] at hother
    rw [hother]
    exact ⟨hmissing, hscope⟩
  · rintro ⟨hmissing, hscope⟩
    have hid := hkeyed _ _ hentity
    refine ⟨entity, ⟨?_, hmissing, ?_⟩, hid⟩
    · rw [hid]
      exact hentity
    · rw [hid]
      exact hscope

/-- The scores of an evaluation as a function of the identity. -/
def gradeOf (evaluator : Evaluator) (reply : EntityId → Outcome Failure Vector32) (store : Store)
    (id : EntityId) : Float32 :=
  match store.get? id with
  | some entity => freshScore evaluator (reply id) entity
  | none => 0

/-- The store with the fresh scores of a scoring written into it. -/
def scoredStore (evaluator : Evaluator) (scope : Option TargetSet)
    (reply : EntityId → Outcome Failure Vector32) (store : Store) : Store :=
  writeScores store
    ((scoredEntities evaluator.thresholds scope store).map fun entity =>
      (entity.id, freshScore evaluator (reply entity.id) entity))
    (missingIds evaluator.thresholds store)

/-- The scored store comes from the old one by writing the new scores and then zero for all that are
missing. -/
theorem scoredStore_eq_foldl (hkeyed : store.Keyed)
    (reply : EntityId → Outcome Failure Vector32) :
    scoredStore evaluator scope reply store =
      (missingIds evaluator.thresholds store).keys.foldl
        (fun store id => store.modify id (withScore 0))
        (((scoredEntities evaluator.thresholds scope store).map (·.id)).foldl
          (fun scored id => scored.modify id (withScore (gradeOf evaluator reply store id)))
          store) := by
  have hfresh : ((scoredEntities evaluator.thresholds scope store).map fun entity =>
      (entity.id, freshScore evaluator (reply entity.id) entity)) =
        ((scoredEntities evaluator.thresholds scope store).map (·.id)).map fun id =>
          (id, gradeOf evaluator reply store id) := by
    rw [List.map_map]
    apply List.map_congr_left
    intro entity hentity
    have hmem := (List.mem_filter.1 hentity).1
    rw [hkeyed.mem_entities_iff] at hmem
    simp only [Function.comp_apply, gradeOf, hmem]
  rw [scoredStore, writeScores, hfresh, List.foldl_map]

/-- Every stored entity is regraded where it is. -/
theorem get?_scoredStore (hkeyed : store.Keyed) (reply : EntityId → Outcome Failure Vector32)
    (id : EntityId) :
    (scoredStore evaluator scope reply store).get? id =
      (store.get? id).map (regraded evaluator scope reply) := by
  rw [scoredStore_eq_foldl hkeyed,
    get?_foldl_withScore (fun _ => 0), get?_foldl_withScore, Option.map_map]
  cases hentity : store.get? id with
  | none => rw [Option.map_none, Option.map_none]
  | some entity =>
      have hid := hkeyed _ _ hentity
      have hgrade : gradeOf evaluator reply store id = freshScore evaluator (reply id) entity := by
        rw [gradeOf, hentity]
      have hmissing : id ∈ (missingIds evaluator.thresholds store).keys ↔
          evaluator.thresholds.isMissing entity.summary = true := by
        rw [OrderedMap.mem_keys_iff, contains_missingIds hkeyed, hentity]
        simp
      simp only [Option.map_some, Function.comp_apply, hmissing, hgrade,
        mem_scoredEntities hkeyed hentity, regraded, hid]
      cases hsummary : evaluator.thresholds.isMissing entity.summary <;>
        cases hscope : inScope scope id <;> simp

/-- Scoring leaves the edges alone. -/
theorem scoredStore_edges (hkeyed : store.Keyed) (reply : EntityId → Outcome Failure Vector32) :
    (scoredStore evaluator scope reply store).edges = store.edges := by
  rw [scoredStore_eq_foldl hkeyed, foldl_withScore_edges (fun _ => 0), foldl_withScore_edges]

/-- Scoring does not rename an entity. -/
theorem regraded_id (reply : EntityId → Outcome Failure Vector32) (entity : Entity) :
    (regraded evaluator scope reply entity).id = entity.id := by
  rw [regraded]
  split
  · rfl
  · split <;> rfl

/-- A grading keeps summaries. -/
theorem regraded_summary (reply : EntityId → Outcome Failure Vector32) (entity : Entity) :
    (regraded evaluator scope reply entity).summary = entity.summary := by
  rw [regraded]
  split
  · rfl
  · split <;> rfl

/-- An empty store has no entities. -/
theorem entities_eq_nil (hstore : store.isEmpty = true) : store.entities = [] := by
  rw [Store.entities, OrderedMap.values, List.map_eq_nil_iff]
  exact List.isEmpty_iff.1 hstore

/-! ## Evaluations -/

/-- What an evaluation with a decision says about the stores before and after the scoring. -/
def tally (evaluator : Evaluator) (store scored : Store) (decision : Decision) : Evaluation :=
  let counted := contributors (missingIds evaluator.thresholds store) scored
  { missing := missingIds evaluator.thresholds store
    aggregate := mean (counted.map (·.score))
    low := lowIds evaluator.thresholds counted
    decision := decision
    scored := counted.length }

/-- How a decision is come to: an empty store is a systemic failure, missing summaries are to be
made up for, and otherwise the strategy decides. -/
def verdict (evaluator : Evaluator) (retryCount : UInt32) (store scored : Store) : Plan Decision :=
  let missing := missingIds evaluator.thresholds store
  let counted := contributors missing scored
  if store.isEmpty then .done .retryAll
  else if !missing.isEmpty then .done .retrySubset
  else evaluator.strategy.decide {
    aggregate := mean (counted.map (·.score))
    low := lowIds evaluator.thresholds counted
    entityCount := scored.size
    retryCount := retryCount
    thresholds := evaluator.thresholds }

/-- An empty store is not scored, and everything is to be tried again. -/
theorem evaluate_of_isEmpty (hstore : store.isEmpty = true) :
    evaluator.evaluate store scope retryCount =
      .done (store, evaluator.tally store store .retryAll) := by
  have htally : evaluator.tally store store .retryAll = emptyEvaluation := by
    simp only [tally, missingIds, contributors, lowIds, entities_eq_nil hstore]
    rfl
  rw [evaluate, if_pos hstore, htally]
  rfl

/-- A store with entities is scored before the strategy decides. -/
theorem evaluate_of_not_isEmpty (hstore : store.isEmpty = false) :
    evaluator.evaluate store scope retryCount =
      (evaluator.scorePlan scope store).bind fun fresh =>
        let scored := writeScores store fresh (missingIds evaluator.thresholds store)
        (evaluator.verdict retryCount store scored).bind fun decision =>
          .done (scored, evaluator.tally store scored decision) := by
  rw [evaluate, if_neg (by simp [hstore])]
  simp only [Plan.bind_eq]
  congr 1
  funext fresh
  simp only [verdict, hstore, Bool.false_eq_true, if_false]
  split <;> rfl

/-- An evaluation that does not crash regrades every entity by a reply for its identity, and tallies
the scored store. -/
theorem course_evaluate (hkeyed : store.Keyed) {scored : Store} {evaluation : Evaluation}
    (h : (evaluator.evaluate store scope retryCount).Course events (some (scored, evaluation))) :
    ∃ reply, Replied evaluator scope store events reply ∧
      scored = scoredStore evaluator scope reply store ∧
      evaluation = evaluator.tally store scored evaluation.decision := by
  cases hstore : store.isEmpty with
  | true =>
      rw [evaluate_of_isEmpty hstore] at h
      simp only [Plan.course_done_iff, Option.some.injEq, Prod.mk.injEq] at h
      obtain ⟨rfl, rfl, rfl⟩ := h
      refine ⟨fun _ => .timedOut, ?_, ?_, rfl⟩
      · intro hne
        exact absurd (by simp [embedded, scoredEntities, entities_eq_nil hstore]) hne
      · simp only [scoredStore, scoredEntities, missingIds, entities_eq_nil hstore]
        rfl
  | false =>
      rw [evaluate_of_not_isEmpty hstore, Plan.course_bind_iff] at h
      rcases h with ⟨fresh, first, rest, hfresh, hrest, rfl⟩ | ⟨_, ⟨⟩⟩
      rw [Plan.course_bind_iff] at hrest
      rcases hrest with ⟨decision, second, last, _, hlast, rfl⟩ | ⟨_, ⟨⟩⟩
      simp only [Plan.course_done_iff, Option.some.injEq, Prod.mk.injEq] at hlast
      obtain ⟨_, rfl, rfl⟩ := hlast
      obtain ⟨reply, hreply, rfl⟩ := course_scorePlan hkeyed hfresh
      refine ⟨reply, ?_, rfl, rfl⟩
      intro hne
      obtain ⟨answer, hanswer, hplaces⟩ := hreply hne
      exact ⟨answer, List.mem_append_left _ hanswer, hplaces⟩

/-- The decision of an evaluation is a verdict on the store. -/
theorem course_verdict {scored : Store} {evaluation : Evaluation}
    (h : (evaluator.evaluate store scope retryCount).Course events (some (scored, evaluation))) :
    evaluation = evaluator.tally store scored evaluation.decision ∧
      ∃ deciding, (evaluator.verdict retryCount store scored).Course deciding
        (some evaluation.decision) := by
  cases hstore : store.isEmpty with
  | true =>
      rw [evaluate_of_isEmpty hstore] at h
      simp only [Plan.course_done_iff, Option.some.injEq, Prod.mk.injEq] at h
      obtain ⟨_, rfl, rfl⟩ := h
      refine ⟨rfl, [], ?_⟩
      rw [verdict, if_pos hstore]
      exact Plan.Course.done Decision.retryAll
  | false =>
      rw [evaluate_of_not_isEmpty hstore, Plan.course_bind_iff] at h
      rcases h with ⟨fresh, first, rest, _, hrest, rfl⟩ | ⟨_, ⟨⟩⟩
      rw [Plan.course_bind_iff] at hrest
      rcases hrest with ⟨decision, deciding, last, hdeciding, hlast, rfl⟩ | ⟨_, ⟨⟩⟩
      simp only [Plan.course_done_iff, Option.some.injEq, Prod.mk.injEq] at hlast
      obtain ⟨_, rfl, rfl⟩ := hlast
      exact ⟨rfl, deciding, hdeciding⟩

/-- A strategy that is not the caller's own asks for a selective retry only if there is something to
retry. -/
theorem retryTargets_of_retrySubset (hbuiltin : ∀ name, evaluator.strategy ≠ .custom name)
    {scored : Store} {evaluation : Evaluation}
    (h : (evaluator.evaluate store scope retryCount).Course events (some (scored, evaluation)))
    (hdecision : evaluation.decision = .retrySubset) :
    evaluation.missing.isEmpty = false ∨ evaluation.low.isEmpty = false := by
  obtain ⟨htally, deciding, hverdict⟩ := course_verdict h
  rw [hdecision, verdict] at hverdict
  rw [htally]
  split at hverdict
  · simp at hverdict
  split at hverdict
  · rename_i hmissing
    simp only [Bool.not_eq_true', tally] at hmissing ⊢
    exact .inl hmissing
  · exact .inr (Strategy.course_decide_retrySubset hbuiltin hverdict)

/-- Scoring makes nothing but calls. -/
theorem calls_scorePlan : (evaluator.scorePlan scope store).Calls := by
  rw [scorePlan]
  split
  · exact Plan.calls_done _
  · refine Plan.calls_ask (fun _ => rfl) ?_ ?_
    · intro answer hescapes
      exact if_pos hescapes
    · intro answer hcontained
      simp only [Plan.done_bind]
      split
      · rename_i hpanicked
        cases hcontained.symm.trans hpanicked
      · exact Plan.calls_done _

/-- Scoring keeps to the calls of the gate. -/
theorem follows_scorePlan :
    (evaluator.scorePlan scope store).Follows GateCalls (fun _ _ => True) () := by
  rw [scorePlan]
  split
  · trivial
  · intro answer
    refine ⟨(), rfl, ?_⟩
    simp only [Plan.done_bind]
    split <;> trivial

/-- Coming to a verdict keeps to the calls of the gate. -/
theorem follows_verdict {scored : Store} :
    (evaluator.verdict retryCount store scored).Follows GateCalls (fun _ _ => True) () := by
  simp only [verdict]
  split
  · trivial
  · split
    · trivial
    · exact Strategy.follows_decide _ _

/-- An evaluation makes no other calls than its own. -/
theorem follows_evaluate :
    (evaluator.evaluate store scope retryCount).Follows GateCalls (fun _ _ => True) () := by
  cases hstore : store.isEmpty with
  | true =>
      rw [evaluate_of_isEmpty hstore]
      trivial
  | false =>
      rw [evaluate_of_not_isEmpty hstore]
      refine follows_scorePlan.bind (fun _ fresh _ => ?_) fun _ _ => trivial
      exact follows_verdict.bind (fun _ _ _ => trivial) fun _ _ => trivial

/-- An evaluation only makes calls, and crashes exactly when a panic escapes from one of them. -/
theorem calls_evaluate : (evaluator.evaluate store scope retryCount).Calls := by
  have hverdict : ∀ scored, (evaluator.verdict retryCount store scored).Calls := by
    intro scored
    simp only [verdict]
    split
    · exact Plan.calls_done _
    · split
      · exact Plan.calls_done _
      · exact Strategy.calls_decide _ _
  cases hstore : store.isEmpty with
  | true =>
      rw [evaluate_of_isEmpty hstore]
      exact Plan.calls_done _
  | false =>
      rw [evaluate_of_not_isEmpty hstore]
      exact calls_scorePlan.bind fun _ => (hverdict _).bind fun _ => Plan.calls_done _

end Evaluator

end CodeSurvey
