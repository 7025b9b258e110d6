import CodeSurvey.Proofs.Cosine
import CodeSurvey.Proofs.Gate.Courses
import CodeSurvey.Proofs.Settings.Check
import CodeSurvey.Survey.Setup

/-!
# What an accepted evaluation says

An evaluation by thresholds accepts a store unless its aggregate or one of its scores is below the
threshold.  For numbers this means that all of them reach their thresholds.  But a score that is not
a number is below nothing, and neither is the aggregate that it enters: a store with such a score is
accepted as if everything were well.

## Main results

* `Evaluator.Meets`: the scores and the aggregate reach their thresholds.
* `Evaluator.isNaN_mean`, `Evaluator.isNaN_mean_eq_false`: when a mean is a number.
* `Evaluator.accepted_full_pass`: an accepted store meets the thresholds if and only if every
  summary can be compared with its code, as it can between vectors of finite length.
* `Evaluator.accepted_without_score`: an accepted store that does not meet the thresholds.
-/

namespace CodeSurvey

open Binary32

/-! ## Settings without a violation -/

/-- Every threshold lies in the unit interval. -/
theorem Settings.unit_of_check {settings : Settings} (h : settings.check = none) :
    ∀ entry ∈ settings.policy.unitValues, 0 ≤ entry.2 ∧ entry.2 ≤ 1 := by
  have hall := Settings.find?_unitValues_eq_none_iff.2 (Settings.check_eq_none_iff.1 h).unit
  rw [List.find?_eq_none] at hall
  intro entry hentry
  simpa [Settings.inUnit] using hall entry hentry

namespace Evaluator

variable {evaluator : Evaluator} {store scored : Store} {retryCount : UInt32}
  {events : List Event} {evaluation : Evaluation} {scores : List Float32} {entity : Entity}

/-! ## Means -/

/-- The mean of scores one of which is not a number is not a number. -/
theorem isNaN_mean (h : ∃ score ∈ scores, score.isNaN = true) : (mean scores).isNaN = true := by
  have hne : scores.isEmpty = false := by
    obtain ⟨score, hscore, _⟩ := h
    exact List.isEmpty_eq_false_iff.2 (List.ne_nil_of_mem hscore)
  rw [mean, hne, if_neg Bool.false_ne_true]
  exact isNaN_div_left _ (isNaN_foldl_add (.inr h))

/-- A sum of numbers of the unit interval does not leave the range of the format. -/
theorem exists_amount_of_unit_scores (h : ∀ score ∈ scores, 0 ≤ score ∧ score ≤ 1) :
    ∃ w, Amount (scores.foldl (· + ·) 0) w := by
  refine exists_amount_foldl_add_of_le (k := 0) (by norm_num) (by norm_num) amount_zero
    (by positivity) fun score hscore => ?_
  obtain ⟨u, hu, hu1⟩ := exists_amount_of_unit (h score hscore).1 (h score hscore).2
  exact ⟨u, hu, by simpa using hu1⟩

/-- The mean of numbers of the unit interval is a number. -/
theorem isNaN_mean_eq_false (h : ∀ score ∈ scores, 0 ≤ score ∧ score ≤ 1) :
    (mean scores).isNaN = false := by
  rw [mean]
  split
  · rfl
  · rename_i hne
    have hlength : 1 ≤ scores.length := by
      rw [Bool.not_eq_true, List.isEmpty_eq_false_iff] at hne
      exact List.length_pos_iff.2 hne
    obtain ⟨v, hv⟩ := exists_amount_of_unit_scores h
    obtain ⟨hnumber, hnonzero⟩ := ofNat_ne_zero hlength
    have hfinite := hv.magnitude.isFinite
    exact isNaN_div_eq_false (isNaN_of_isFinite hfinite) hnumber hnonzero (.inl hfinite)

/-! ## Accepted stores -/

/-- Whether the scores and the aggregate reach their thresholds. -/
structure Meets (thresholds : Thresholds) (scored : Store) (evaluation : Evaluation) : Prop where
  perEntity_le : ∀ entity ∈ scored.entities, thresholds.perEntity ≤ entity.score
  systemic_le : thresholds.systemic ≤ evaluation.aggregate

/-- Only an empty list gives an empty set. -/
theorem eq_nil_of_isEmpty_ofElements {ids : List EntityId}
    (h : (OrderedSet.ofElements ids).isEmpty = true) : ids = [] := by
  refine List.eq_nil_iff_forall_not_mem.2 fun id hid => ?_
  have hcontains := (OrderedSet.contains_ofElements ids id).2 hid
  have hempty : OrderedSet.ofElements ids = .empty := OrderedMap.ext (List.isEmpty_iff.1 h)
  rw [hempty] at hcontains
  cases hcontains

/-- The thresholds accept if the aggregate is not too low and no entity is weak. -/
theorem classify_eq_accept_iff (context : DecisionContext) :
    context.classify = .accept ↔
      ¬ context.aggregate < context.thresholds.systemic ∧ context.low.isEmpty = true := by
  rw [DecisionContext.classify]
  split
  · simp [*]
  · split <;> simp_all

/-- Nothing is missing if the set of missing summaries is empty. -/
theorem of_isEmpty_missingIds (h : (missingIds evaluator.thresholds store).isEmpty = true)
    (hmem : entity ∈ store.entities) : evaluator.thresholds.isMissing entity.summary = false := by
  have hnil := List.map_eq_nil_iff.1 (eq_nil_of_isEmpty_ofElements h)
  rw [List.filter_eq_nil_iff] at hnil
  exact Bool.eq_false_iff.2 (hnil entity hmem)

/-- Every score reaches its threshold, or is not a number, if the set of low scores is empty. -/
theorem of_isEmpty_lowIds {entities : List Entity}
    (h : (lowIds evaluator.thresholds entities).isEmpty = true) (hmem : entity ∈ entities) :
    ¬ entity.score < evaluator.thresholds.perEntity := by
  have hnil := List.map_eq_nil_iff.1 (eq_nil_of_isEmpty_ofElements h)
  rw [List.filter_eq_nil_iff] at hnil
  simpa using hnil entity hmem

/-- If no summary is missing, all entities contribute to the aggregate. -/
theorem contributors_of_isEmpty {missing : TargetSet} (h : missing.isEmpty = true)
    (scored : Store) : contributors missing scored = scored.entities := by
  have hempty : missing = .empty := OrderedMap.ext (List.isEmpty_iff.1 h)
  rw [contributors, hempty, List.filter_eq_self]
  intro entity _
  rfl

/-- What has been found when the thresholds accept a store. -/
theorem tally_of_accept (hthreshold : evaluator.strategy = .threshold)
    (hstore : store.isEmpty = false)
    (hcourse : (evaluator.evaluate store none retryCount).Course events (some (scored, evaluation)))
    (haccept : evaluation.decision = .accept) :
    evaluation.missing.isEmpty = true ∧
      (∀ entity ∈ store.entities, evaluator.thresholds.isMissing entity.summary = false) ∧
      evaluation.aggregate = mean (scored.entities.map (·.score)) ∧
      (∀ entity ∈ scored.entities, ¬ entity.score < evaluator.thresholds.perEntity) ∧
      ¬ evaluation.aggregate < evaluator.thresholds.systemic := by
  rw [evaluate_of_not_isEmpty hstore, Plan.course_bind_iff] at hcourse
  rcases hcourse with ⟨fresh, first, rest, _, hrest, rfl⟩ | ⟨_, ⟨⟩⟩
  rw [Plan.course_bind_iff] at hrest
  rcases hrest with ⟨decision, second, last, hverdict, hlast, rfl⟩ | ⟨_, ⟨⟩⟩
  simp only [Plan.course_done_iff, Option.some.injEq, Prod.mk.injEq] at hlast
  obtain ⟨_, hscored, rfl⟩ := hlast
  subst hscored
  change decision = .accept at haccept
  subst haccept
  simp only [verdict, hstore, hthreshold, Strategy.decide, Bool.false_eq_true, if_false] at hverdict
  split at hverdict
  · simp at hverdict
  rename_i hmissing
  have hmissing : (missingIds evaluator.thresholds store).isEmpty = true := by
    simpa using hmissing
  simp only [Plan.pure_eq_done, Plan.course_done_iff, Option.some.injEq] at hverdict
  obtain ⟨haggregate, hlow⟩ := (classify_eq_accept_iff _).1 hverdict.2.symm
  simp only [contributors_of_isEmpty hmissing] at haggregate hlow
  refine ⟨hmissing, fun entity hmem => of_isEmpty_missingIds hmissing hmem, ?_,
    fun entity hmem => of_isEmpty_lowIds hlow hmem, ?_⟩
  · simp only [tally, contributors_of_isEmpty hmissing]
  · simpa only [tally, contributors_of_isEmpty hmissing] using haggregate

/-- The thresholds are met if and only if the aggregate of an accepted store is a number.  A score
that is not one would make its way into the aggregate. -/
theorem meets_iff_of_accept (hthreshold : evaluator.strategy = .threshold)
    (hstore : store.isEmpty = false)
    (hperEntity : evaluator.thresholds.perEntity.isNaN = false)
    (hsystemic : evaluator.thresholds.systemic.isNaN = false)
    (hcourse : (evaluator.evaluate store none retryCount).Course events (some (scored, evaluation)))
    (haccept : evaluation.decision = .accept) :
    Meets evaluator.thresholds scored evaluation ↔ evaluation.aggregate.isNaN = false := by
  obtain ⟨_, _, hmean, hscores, haggregate⟩ := tally_of_accept hthreshold hstore hcourse haccept
  constructor
  · intro h
    exact (isNaN_of_le h.systemic_le).2
  · intro hnumber
    refine ⟨?_, le_of_not_lt hnumber hsystemic haggregate⟩
    intro entity hentity
    refine le_of_not_lt ?_ hperEntity (hscores entity hentity)
    by_contra hnan
    rw [Bool.not_eq_false] at hnan
    have hmeanNaN := isNaN_mean ⟨_, List.mem_map_of_mem hentity, hnan⟩
    rw [hmean, hmeanNaN] at hnumber
    cases hnumber

/-! ## Comparable summaries -/

/-- Whether the vector of a summary can be had but has no cosine with the vector of the code. -/
def Incomparable (reply : Outcome Failure Vector32) (entity : Entity) : Prop :=
  entity.hasEmbedding = true ∧ ∃ vector, reply = .ok vector ∧ vector ≠ [] ∧
    (cosine vector entity.embedding).isNaN = true

variable {reply : Outcome Failure Vector32}

/-- A fresh score is the neutral one unless there are two vectors to compare. -/
theorem freshScore_eq (hcosine : evaluator.similarity = .cosine) :
    (∃ vector, reply = .ok vector ∧ vector ≠ [] ∧ entity.hasEmbedding = true ∧
        freshScore evaluator reply entity =
          clampUnit (clampUnit (cosine vector entity.embedding))) ∨
      ¬ Incomparable reply entity ∧
        freshScore evaluator reply entity = evaluator.thresholds.neutral := by
  by_cases hembedding : entity.hasEmbedding = true
  · rw [freshScore, if_pos hembedding, hcosine]
    cases reply with
    | ok vector =>
        by_cases hvector : vector = []
        · subst hvector
          exact .inr ⟨by simp [Incomparable], by simp [score]⟩
        · refine .inl ⟨vector, rfl, hvector, hembedding, ?_⟩
          simp only [score, List.isEmpty_eq_false_iff.2 hvector, Bool.false_eq_true, if_false,
            Similarity.cosine]
    | _ => exact .inr ⟨by simp [Incomparable], by simp only [score]⟩
  · rw [freshScore, if_neg hembedding]
    exact .inr ⟨fun h => hembedding h.1, rfl⟩

/-- A fresh score is not a number exactly if the vectors to compare have no cosine, and lies in the
unit interval otherwise. -/
theorem freshScore_cases (hcosine : evaluator.similarity = .cosine)
    (hneutral : 0 ≤ evaluator.thresholds.neutral ∧ evaluator.thresholds.neutral ≤ 1)
    (reply : Outcome Failure Vector32) (entity : Entity) :
    Incomparable reply entity ∧ (freshScore evaluator reply entity).isNaN = true ∨
      ¬ Incomparable reply entity ∧
        0 ≤ freshScore evaluator reply entity ∧ freshScore evaluator reply entity ≤ 1 := by
  rcases freshScore_eq hcosine with
    ⟨vector, hreply, hvector, hembedding, hscore⟩ | ⟨hcomparable, hscore⟩
  · rw [hscore]
    cases hnan : (cosine vector entity.embedding).isNaN with
    | true =>
        refine .inl ⟨⟨hembedding, vector, hreply, hvector, hnan⟩, ?_⟩
        rw [isNaN_clampUnit, isNaN_clampUnit, hnan]
    | false =>
        refine .inr ⟨?_, clampUnit_mem (by rw [isNaN_clampUnit, hnan])⟩
        rintro ⟨_, other, hother, _, hothernan⟩
        rw [hreply, Outcome.ok.injEq] at hother
        rw [← hother, hnan] at hothernan
        cases hothernan
  · exact .inr ⟨hcomparable, by rwa [hscore]⟩

/-- The scores after a full pass are the fresh ones if no summary is missing. -/
theorem mem_scores_scoredStore (hkeyed : store.Keyed)
    (hpresent : ∀ entity ∈ store.entities, evaluator.thresholds.isMissing entity.summary = false)
    (reply : EntityId → Outcome Failure Vector32) (score : Float32) :
    score ∈ (scoredStore evaluator none reply store).entities.map (·.score) ↔
      ∃ entity ∈ store.entities, freshScore evaluator (reply entity.id) entity = score := by
  have hregraded : ∀ id entity, store.get? id = some entity →
      (regraded evaluator none reply entity).score =
        freshScore evaluator (reply entity.id) entity := by
    intro id entity hentity
    rw [regraded, hpresent entity ((Store.mem_entities_iff ..).2 ⟨id, hentity⟩)]
    rfl
  simp only [List.mem_map, Store.mem_entities_iff, get?_scoredStore hkeyed,
    Option.map_eq_some_iff]
  constructor
  · rintro ⟨_, ⟨id, entity, hentity, rfl⟩, rfl⟩
    exact ⟨entity, ⟨id, hentity⟩, (hregraded id entity hentity).symm⟩
  · rintro ⟨entity, ⟨id, hentity⟩, rfl⟩
    exact ⟨_, ⟨id, entity, hentity, rfl⟩, hregraded id entity hentity⟩

/-- The mean of fresh scores is a number if and only if every summary can be compared. -/
theorem isNaN_mean_scoredStore (hkeyed : store.Keyed) (hcosine : evaluator.similarity = .cosine)
    (hneutral : 0 ≤ evaluator.thresholds.neutral ∧ evaluator.thresholds.neutral ≤ 1)
    (hpresent : ∀ entity ∈ store.entities, evaluator.thresholds.isMissing entity.summary = false)
    (reply : EntityId → Outcome Failure Vector32) :
    (mean ((scoredStore evaluator none reply store).entities.map (·.score))).isNaN = false ↔
      ∀ entity ∈ store.entities, ¬ Incomparable (reply entity.id) entity := by
  have hscores := mem_scores_scoredStore hkeyed hpresent reply
  constructor
  · intro hnumber entity hentity hincomparable
    rcases freshScore_cases hcosine hneutral (reply entity.id) entity with
      ⟨_, hnan⟩ | ⟨hcomparable, _⟩
    · rw [isNaN_mean ⟨_, (hscores _).2 ⟨entity, hentity, rfl⟩, hnan⟩] at hnumber
      cases hnumber
    · exact hcomparable hincomparable
  · intro hcomparable
    refine isNaN_mean_eq_false ?_
    intro score hscore
    obtain ⟨entity, hentity, rfl⟩ := (hscores score).1 hscore
    rcases freshScore_cases hcosine hneutral (reply entity.id) entity with
      ⟨hincomparable, _⟩ | ⟨_, hunit⟩
    · exact absurd hincomparable (hcomparable entity hentity)
    · exact hunit

/-- Vectors of finite length can be compared. -/
theorem not_incomparable_of_isFinite_norm
    (h : ∀ vector, reply = .ok vector → (norm vector).isFinite = true)
    (hembedding : (norm entity.embedding).isFinite = true) : ¬ Incomparable reply entity := by
  rintro ⟨_, vector, hreply, _, hnan⟩
  rw [isNaN_cosine (h vector hreply) hembedding] at hnan
  cases hnan

/-! ## Accepted full passes -/

/-- If a full pass is accepted by its thresholds, then no summary is missing, and the thresholds are
met unless the aggregate is not a number.  It is one if and only if no summary lacks a cosine with
its code; vectors of finite length always have one. -/
theorem accepted_full_pass {setup : Setup} (hvalid : setup.settings.check = none)
    (hcosine : setup.collaborators.similarity = .cosine)
    (hthreshold : setup.evaluator.strategy = .threshold) (hstore : store.isEmpty = false)
    (hcourse : (setup.evaluator.evaluate store none retryCount).Course events
      (some (scored, evaluation)))
    (haccept : evaluation.decision = .accept) :
    (evaluation.missing.isEmpty = true ∧
      ∀ entity ∈ store.entities,
        setup.evaluator.thresholds.isMissing entity.summary = false) ∧
    (Meets setup.evaluator.thresholds scored evaluation ↔ evaluation.aggregate.isNaN = false) ∧
    (store.Keyed → ∃ reply, Replied setup.evaluator none store events reply ∧
      (Meets setup.evaluator.thresholds scored evaluation ↔
        ∀ entity ∈ store.entities, ¬ Incomparable (reply entity.id) entity) ∧
      ((∀ entity ∈ store.entities, (norm entity.embedding).isFinite = true ∧
          ∀ vector, reply entity.id = .ok vector → (norm vector).isFinite = true) →
        Meets setup.evaluator.thresholds scored evaluation)) := by
  have hunit := Settings.unit_of_check hvalid
  simp only [Settings.Policy.unitValues, List.forall_mem_cons] at hunit
  obtain ⟨⟨hsystemic, _⟩, ⟨hperEntity, _⟩, _, hneutral, _⟩ := hunit
  obtain ⟨hmissing, hpresent, hmean, _⟩ := tally_of_accept hthreshold hstore hcourse haccept
  have hmeets := meets_iff_of_accept hthreshold hstore (isNaN_of_le hperEntity).2
    (isNaN_of_le hsystemic).2 hcourse haccept
  refine ⟨⟨hmissing, hpresent⟩, hmeets, ?_⟩
  intro hkeyed
  obtain ⟨reply, hreplied, hscored, _⟩ := course_evaluate hkeyed hcourse
  change setup.evaluator.similarity = .cosine at hcosine
  have hcomparable := isNaN_mean_scoredStore hkeyed hcosine hneutral hpresent reply
  rw [← hscored, ← hmean, ← hmeets] at hcomparable
  refine ⟨reply, hreplied, hcomparable, ?_⟩
  intro hfinite
  refine hcomparable.2 fun entity hentity => ?_
  obtain ⟨hembedding, hvector⟩ := hfinite entity hentity
  exact not_incomparable_of_isFinite_norm hvector hembedding

end Evaluator

/-! ## A store of one entity -/

namespace OneEntity

/-- The standard settings and the standard similarity. -/
def setup : Setup where
  settings := .default
  collaborators := ⟨"summarizer", "embedder", .cosine, false⟩
  strategy := none
  postProcessors := []

/-- The settings violate nothing. -/
theorem valid : setup.settings.check = none :=
  Option.isNone_iff_eq_none.1 (by decide +kernel)

/-- An entity with a summary and a vector. -/
def entity (embedding : Vector32) : Entity :=
  { Entity.new ⟨"a.py"⟩ .file with
    summary := "Reads the configuration."
    embedding := embedding }

def store (embedding : Vector32) : Store := Store.empty.upsert (entity embedding)

theorem entities_store (embedding : Vector32) : (store embedding).entities = [entity embedding] :=
  rfl

theorem keyed_store (embedding : Vector32) : (store embedding).Keyed :=
  Store.keyed_empty.upsert _

/-- A host that embeds every text as one vector. -/
def host (vector : Vector32) : Host Unit where
  cancelled _ := false
  answer
    | .embedTexts .., state => (fun _ => .ok vector, state)
    | request, state => (request.anyAnswer, state)

/-- The evaluation of the store. -/
def plan (embedding : Vector32) : Plan (Store × Evaluation) :=
  setup.evaluator.evaluate (store embedding) none 0

/-- The scored store and its evaluation. -/
def result (embedding vector : Vector32) : Option (Store × Evaluation) :=
  ((plan embedding).run (host vector) ()).1

theorem course {embedding vector : Vector32} {scored : Store} {evaluation : Evaluation}
    (h : result embedding vector = some (scored, evaluation)) :
    (plan embedding).Course ((plan embedding).events (host vector) ())
      (some (scored, evaluation)) := by
  rw [← h]
  exact Plan.course_run _ _ _

/-- The reply about the entity is the one that the host gives. -/
theorem reply_of_replied {embedding vector : Vector32}
    {reply : EntityId → Outcome Failure Vector32} (hembedding : embedding ≠ [])
    (h : Evaluator.Replied setup.evaluator none (store embedding)
      ((plan embedding).events (host vector) ()) reply) :
    reply (entity embedding).id = .ok vector := by
  have hembedded : Evaluator.embedded setup.evaluator none (store embedding) =
      [entity embedding] := by
    have hpresent : setup.evaluator.thresholds.isMissing (entity embedding).summary = false := by
      change setup.evaluator.thresholds.isMissing "Reads the configuration." = false
      decide +kernel
    have hhas : (entity embedding).hasEmbedding = true := (Entity.hasEmbedding_iff _).2 hembedding
    rw [Evaluator.embedded, Evaluator.scoredEntities, entities_store]
    simp [hpresent, inScope, hhas]
  have hanswers : ∀ event ∈ (plan embedding).events (host vector) (), ∀ texts limit answer,
      event = .answered (.embedTexts texts limit) answer → ∀ place, answer place = .ok vector := by
    apply Plan.forall_mem_events
    · rintro cancelled texts limit answer ⟨⟩
    · intro request state texts limit answer hevent
      cases request with
      | embedTexts =>
          cases hevent
          exact fun _ => rfl
      | _ => cases hevent
  obtain ⟨answer, hmem, hplaces⟩ := h (by simp [hembedded])
  rw [hembedded] at hplaces
  exact (hplaces 0 _ rfl).trans (hanswers _ hmem _ _ _ rfl 0)

end OneEntity

namespace Evaluator

/-- A store that is accepted with a score of one. -/
theorem accepted_full_pass_one_entity :
    ∃ scored evaluation, OneEntity.result [1, 0] [1, 0] = some (scored, evaluation) ∧
      evaluation.decision = .accept ∧
      Meets OneEntity.setup.evaluator.thresholds scored evaluation := by
  have hdecision : (OneEntity.result [1, 0] [1, 0]).map (·.2.decision) = some .accept := by
    decide +kernel
  obtain ⟨⟨scored, evaluation⟩, hresult, haccept⟩ := Option.map_eq_some_iff.1 hdecision
  refine ⟨scored, evaluation, hresult, haccept, ?_⟩
  obtain ⟨reply, hreplied, _, hmeets⟩ := (accepted_full_pass OneEntity.valid rfl rfl rfl
    (OneEntity.course hresult) haccept).2.2 (OneEntity.keyed_store _)
  refine hmeets fun entity hentity => ?_
  rw [OneEntity.entities_store, List.mem_singleton] at hentity
  subst hentity
  refine ⟨by decide +kernel, ?_⟩
  intro vector hvector
  rw [OneEntity.reply_of_replied (by simp) hreplied] at hvector
  cases hvector
  decide +kernel

/-- A store may be accepted although its score is not a number: the squares of the components of its
vectors are beyond the range of the format. -/
theorem accepted_without_score :
    ¬ ∀ (setup : Setup) (store scored : Store) (retryCount : UInt32) (events : List Event)
        (evaluation : Evaluation),
      setup.settings.check = none → setup.collaborators.similarity = .cosine →
      setup.evaluator.strategy = .threshold → store.isEmpty = false → store.Keyed →
      (setup.evaluator.evaluate store none retryCount).Course events (some (scored, evaluation)) →
      evaluation.decision = .accept →
      (∀ entity ∈ store.entities,
        setup.evaluator.thresholds.isMissing entity.summary = false) ∧
      Meets setup.evaluator.thresholds scored evaluation := by
  intro hsound
  have hdecision : (OneEntity.result [1e30] [1e30]).map (·.2.decision) = some .accept := by
    decide +kernel
  obtain ⟨⟨scored, evaluation⟩, hresult, haccept⟩ := Option.map_eq_some_iff.1 hdecision
  have hmeets := (hsound OneEntity.setup _ _ _ _ _ OneEntity.valid rfl rfl rfl
    (OneEntity.keyed_store _) (OneEntity.course hresult) haccept).2
  have haggregate : (OneEntity.result [1e30] [1e30]).map (·.2.aggregate.isNaN) = some true := by
    decide +kernel
  rw [hresult, Option.map_some, Option.some.injEq] at haggregate
  rw [(isNaN_of_le hmeets.systemic_le).2] at haggregate
  cases haggregate

end Evaluator
end CodeSurvey
