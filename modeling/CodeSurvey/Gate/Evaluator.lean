import CodeSurvey.Gate.Strategy
import CodeSurvey.Store

/-!
# Evaluating the store

Each entity with a summary is scored by the similarity of its summary to its code.  A selective
pass scores its targets again and keeps the other scores; missing summaries are looked for
everywhere.  What is missing or weak, and the mean score, lead to a decision.

## Main definitions

* `Evaluator.scorePlan`: fresh scores for the entities in scope.
* `Evaluator.tally`: the aggregate and the weak entities of a scored store.
* `Evaluator.evaluate`: the scored store and the evaluation.
-/

namespace CodeSurvey

/-- What an evaluation depends on. -/
structure Evaluator where
  similarity : Similarity
  strategy : Strategy
  thresholds : Thresholds
  maxConcurrentCalls : Nat

namespace Evaluator

/-! ## Scoring -/

/-- The entities whose summary is missing. -/
def missingIds (thresholds : Thresholds) (store : Store) : TargetSet :=
  OrderedSet.ofElements
    ((store.entities.filter fun entity => thresholds.isMissing entity.summary).map (·.id))

/-- The entities in scope whose summary is not missing. -/
def scoredEntities (thresholds : Thresholds) (scope : Option TargetSet) (store : Store) :
    List Entity :=
  store.entities.filter fun entity =>
    !thresholds.isMissing entity.summary && inScope scope entity.id

/-- The score of an entity by what became of embedding its summary.  It is neutral when either
side of the comparison is unavailable. -/
def score (thresholds : Thresholds) (similarity : Similarity) (embedding : Vector32) :
    Outcome Failure Vector32 → Float32
  | .ok vector =>
      if vector.isEmpty then thresholds.neutral else clampUnit (similarity vector embedding)
  | _ => thresholds.neutral

/-- Whether a call panicked. -/
def panicked {ε α : Type} : Outcome ε α → Bool
  | .panicked => true
  | _ => false

/-- The scores of entities.  Those without an embedding need no call; the others are answered by
their places among themselves, from `place` on. -/
def scores (thresholds : Thresholds) (similarity : Similarity)
    (answer : Nat → Outcome Failure Vector32) :
    (place : Nat) → List Entity → List (EntityId × Float32)
  | _, [] => []
  | place, entity :: rest =>
      if entity.hasEmbedding then
        (entity.id, score thresholds similarity entity.embedding (answer place)) ::
          scores thresholds similarity answer (place + 1) rest
      else (entity.id, thresholds.neutral) :: scores thresholds similarity answer place rest

/-- Fresh scores for the entities in scope.  The summaries of those with an embedding are embedded
concurrently. -/
def scorePlan (evaluator : Evaluator) (scope : Option TargetSet) (store : Store) :
    Plan (List (EntityId × Float32)) := do
  let entities := scoredEntities evaluator.thresholds scope store
  let texts := (entities.filter Entity.hasEmbedding).map (·.summary)
  if texts.isEmpty then
    return scores evaluator.thresholds evaluator.similarity (fun _ => .timedOut) 0 entities
  else
    let answer ← Plan.request (.embedTexts texts (max evaluator.maxConcurrentCalls 1))
    if (List.range texts.length).any fun place => panicked (answer place) then .crash
    else return scores evaluator.thresholds evaluator.similarity answer 0 entities

/-- The entity with another score. -/
def withScore (score : Float32) (entity : Entity) : Entity := { entity with score := score }

/-- The store with fresh scores, and the score zero for missing summaries. -/
def writeScores (store : Store) (fresh : List (EntityId × Float32)) (missing : TargetSet) : Store :=
  let scored := fresh.foldl (fun store (id, score) => store.modify id (withScore score)) store
  missing.keys.foldl (fun store id => store.modify id (withScore 0)) scored

/-! ## The tally -/

/-- The entities that contribute to the aggregate. -/
def contributors (missing : TargetSet) (store : Store) : List Entity :=
  store.entities.filter fun entity => !missing.contains entity.id

/-- The mean of scores, summed up in order; of no scores it is zero. -/
def mean (scores : List Float32) : Float32 :=
  if scores.isEmpty then 0 else scores.foldl (· + ·) 0 / Float32.ofNat scores.length

/-- The entities whose score is below the threshold. -/
def lowIds (thresholds : Thresholds) (entities : List Entity) : TargetSet :=
  OrderedSet.ofElements
    ((entities.filter fun entity => entity.score < thresholds.perEntity).map (·.id))

/-! ## The evaluation -/

/-- The evaluation of a store without entities, which is a systemic failure. -/
def emptyEvaluation : Evaluation where
  missing := .empty
  aggregate := 0
  low := .empty
  decision := .retryAll
  scored := 0

/-- Scores the store and decides.  The scope limits the scoring, and nothing else. -/
def evaluate (evaluator : Evaluator) (store : Store) (scope : Option TargetSet)
    (retryCount : UInt32) : Plan (Store × Evaluation) := do
  if store.isEmpty then return (store, emptyEvaluation)
  else
    let missing := missingIds evaluator.thresholds store
    let fresh ← evaluator.scorePlan scope store
    let scored := writeScores store fresh missing
    let counted := contributors missing scored
    let aggregate := mean (counted.map (·.score))
    let low := lowIds evaluator.thresholds counted
    let decision ←
      if !missing.isEmpty then pure Decision.retrySubset
      else evaluator.strategy.decide {
        aggregate := aggregate
        low := low
        entityCount := scored.size
        retryCount := retryCount
        thresholds := evaluator.thresholds }
    return (scored, {
      missing := missing
      aggregate := aggregate
      low := low
      decision := decision
      scored := counted.length })

end Evaluator

end CodeSurvey
