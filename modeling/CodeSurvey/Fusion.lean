import CodeSurvey.Decimal.Fixed
import CodeSurvey.Ensemble
import CodeSurvey.Ladder

/-!
# Fusing analysis results into the store

Summaries, nodes, embeddings and edges of one pass are merged into the entity store.  Without
targets the store is built anew.  With targets only those are created or replaced; their physical
edges are swapped for the new ones, and logical edges only accumulate.

## Main definitions

* `FusionInputs`, `FusionReport`: what is fused, and what came of it.
* `Fusion.fuse`: the fused store and the report.
-/

namespace CodeSurvey

/-- What is fused in one pass. -/
structure FusionInputs where
  summaries : List SummaryRecord
  graph : StructuralGraph
  embeddings : List EmbeddingRecord
  logicalEdges : List Edge

/-- What came of a fusion: how many entities were made of summaries and by the ladder, whose ladder
panicked, how many edges were added and how many of the store's dangle, and how many entities each
tier resolved. -/
structure FusionReport where
  primary : Nat
  synthesized : Nat
  failed : List EntityId
  physicalEdges : Nat
  logicalEdges : Nat
  danglingEdges : Nat
  tierCounts : OrderedMap String Nat

namespace Fusion

/-- The attribute that tells where a summary came from. -/
def sourceAttribute : String := "summary_source"

/-- The nodes of a graph by identity; the last one of an identity counts. -/
def nodesById (graph : StructuralGraph) : OrderedMap EntityId StructuralNode :=
  .ofList (graph.nodes.map fun node => (node.id, node))

/-- The vectors by identity; the last one of an identity counts. -/
def vectorsById (records : List EmbeddingRecord) : OrderedMap EntityId Vector32 :=
  .ofList (records.map fun record => (record.id, record.vector))

/-- The vector of an identity, which is empty when there is none. -/
def vectorFor (vectors : OrderedMap EntityId Vector32) (id : EntityId) : Vector32 :=
  (vectors.get? id).getD []

/-! ## Entities with a summary of their own -/

/-- The entity of a summary, with the structure of its node if there is one. -/
def primaryEntity (ensembleMode : Bool) (vectors : OrderedMap EntityId Vector32)
    (node : Option StructuralNode) (record : SummaryRecord) : Entity where
  id := record.id
  kind := (node.map (·.kind)).getD record.kind
  summary :=
    if ensembleMode && !record.views.isEmpty then Ensemble.integrate record.views else record.text
  details := .ofList (record.views.map fun view => (view.perspective, view.text))
  embedding := vectorFor vectors record.id
  complexity := (node.map (·.complexity)).getD 0
  label := (node.map (·.label)).getD record.id.label
  attributes := .ofList [
    (sourceAttribute, "summarizer"), ("confidence", Decimal.fixed 2 record.confidence)]
  score := 0

/-- Whether an identity takes part in a fusion: it is not empty, and in scope. -/
def takesPart (targets : Option TargetSet) (id : EntityId) : Bool :=
  !id.isEmpty && inScope targets id

/-- The summaries that take part. -/
def primaryRecords (inputs : FusionInputs) (targets : Option TargetSet) : List SummaryRecord :=
  inputs.summaries.filter fun record => takesPart targets record.id

/-- The identities that have a summary. -/
def primaryIds (inputs : FusionInputs) (targets : Option TargetSet) : TargetSet :=
  OrderedSet.ofElements ((primaryRecords inputs targets).map (·.id))

/-- The store with the entities of all summaries that take part. -/
def addPrimary (ensembleMode : Bool) (inputs : FusionInputs) (targets : Option TargetSet)
    (store : Store) : Store :=
  let nodes := nodesById inputs.graph
  let vectors := vectorsById inputs.embeddings
  (primaryRecords inputs targets).foldl
    (fun store record =>
      store.upsert (primaryEntity ensembleMode vectors (nodes.get? record.id) record))
    store

/-! ## Entities whose summary is synthesized -/

/-- The first node of each identity. -/
def firstNodes (nodes : List StructuralNode) : List StructuralNode :=
  nodes.foldl
    (fun found node => if found.any fun other => other.id = node.id then found else found ++ [node])
    []

/-- The nodes that take part and have no summary, each identity once. -/
def uncoveredNodes (inputs : FusionInputs) (targets : Option TargetSet) : List StructuralNode :=
  firstNodes (inputs.graph.nodes.filter fun node =>
    takesPart targets node.id && !(primaryIds inputs targets).contains node.id)

/-- The entity of a node without a summary. -/
def bareEntity (vectors : OrderedMap EntityId Vector32) (node : StructuralNode) : Entity :=
  { Entity.new node.id node.kind with
    label := node.label
    complexity := node.complexity
    embedding := vectorFor vectors node.id }

/-- The entity of a node with the summary that the ladder found for it. -/
def synthesizedEntity (vectors : OrderedMap EntityId Vector32) (node : StructuralNode)
    (outcome : LadderOutcome) : Entity :=
  { bareEntity vectors node with
    summary := outcome.text
    attributes := .ofList [(sourceAttribute, outcome.tier)] }

/-- The store in the course of synthesis, with what is to be reported. -/
structure Synthesis where
  store : Store
  synthesized : Nat
  failed : List EntityId
  tierCounts : OrderedMap String Nat

/-- The synthesis after one more node, whose ladder had an outcome or panicked. -/
def Synthesis.add (vectors : OrderedMap EntityId Vector32) (synthesis : Synthesis)
    (node : StructuralNode) : Option LadderOutcome → Synthesis
  | some outcome => {
      store := synthesis.store.upsert (synthesizedEntity vectors node outcome)
      synthesized := synthesis.synthesized + 1
      failed := synthesis.failed
      tierCounts := synthesis.tierCounts.insert outcome.tier
        ((synthesis.tierCounts.get? outcome.tier).getD 0 + 1) }
  | none => {
      synthesis with
      store := synthesis.store.upsert (bareEntity vectors node)
      failed := synthesis.failed ++ [node.id] }

/-- The synthesis of summaries for a list of nodes. -/
def synthesize (ladder : Ladder) (vectors : OrderedMap EntityId Vector32) :
    List StructuralNode → Synthesis → Plan Synthesis
  | [], synthesis => .done synthesis
  | node :: rest, synthesis => do
      let outcome ← (ladder.resolve node).contained
      synthesize ladder vectors rest (synthesis.add vectors node outcome)

/-! ## Edges -/

/-- The store without the edges that are about to be swapped: the physical edges of targets, unless
the parser reported nothing. -/
def withoutStaleEdges (graph : StructuralGraph) (targets : Option TargetSet) (store : Store) :
    Store :=
  match targets with
  | none => store
  | some set =>
      if graph.isEmpty then store
      else store.retainEdges fun edge => edge.kind ≠ .physical || !set.contains edge.source

/-- The physical edges that are added. -/
def newPhysicalEdges (graph : StructuralGraph) (targets : Option TargetSet) : List Edge :=
  (graph.edges.filter fun edge => inScope targets edge.source).map fun edge =>
    Edge.physical edge.source edge.target edge.relation

/-- The logical edges that are added: on a selective pass only those that the store does not
have. -/
def newLogicalEdges (edges : List Edge) (targets : Option TargetSet) (store : Store) : List Edge :=
  let candidates := (edges.filter fun edge => inScope targets edge.source).map fun edge =>
    Edge.logical edge.source edge.target edge.relation
  match targets with
  | none => candidates
  | some _ => candidates.filter fun edge => !store.edges.contains edge

/-! ## Fusion -/

/-- Merges inputs into a store. -/
def apply (ladder : Ladder) (ensembleMode : Bool) (inputs : FusionInputs)
    (targets : Option TargetSet) (store : Store) : Plan (Store × FusionReport) := do
  let vectors := vectorsById inputs.embeddings
  let synthesis ← synthesize ladder vectors (uncoveredNodes inputs targets)
    ⟨addPrimary ensembleMode inputs targets store, 0, [], .empty⟩
  let kept := withoutStaleEdges inputs.graph targets synthesis.store
  let physical := newPhysicalEdges inputs.graph targets
  let logical := newLogicalEdges inputs.logicalEdges targets kept
  let fused := (kept.extendEdges physical).extendEdges logical
  return (fused, {
    primary := (primaryIds inputs targets).size
    synthesized := synthesis.synthesized
    failed := synthesis.failed
    physicalEdges := physical.length
    logicalEdges := logical.length
    danglingEdges := fused.danglingEdges.length
    tierCounts := synthesis.tierCounts })

/-- Merges inputs into a store, which is built anew when there are no targets. -/
def fuse (ladder : Ladder) (ensembleMode : Bool) (inputs : FusionInputs)
    (targets : Option TargetSet) (store : Store) : Plan (Store × FusionReport) :=
  match targets with
  | none => apply ladder ensembleMode inputs none .empty
  | some set => apply ladder ensembleMode inputs (some set) store

end Fusion
end CodeSurvey
