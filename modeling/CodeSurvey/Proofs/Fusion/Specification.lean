import CodeSurvey.Proofs.Fusion.Edges
import Mathlib.Data.List.Find
import Mathlib.Data.List.Nodup

/-!
# What a full fusion stores

A fusion goes through its inputs record by record, and an identity may occur in them many times.
What comes of an identity is nevertheless told by a few of its records: the last summary, the last
or the first node, and the last vector.  This file says what becomes of an identity without going
through the inputs, and proves that a fusion does just that.

## Main results

* `Fusion.get?_merge`: a fused entity is the one that the inputs tell, for every identity that takes
  part.
* `Fusion.OfSummary`, `Fusion.OfNode`: what the inputs tell of an entity.
* `Fusion.full_fusion`: the store after a full fusion.
-/

namespace CodeSurvey

/-! ## The records that count -/

namespace FusionInputs

/-- The last summary of an identity. -/
def lastSummary? (inputs : FusionInputs) (id : EntityId) : Option SummaryRecord :=
  inputs.summaries.reverse.find? fun record => id = record.id

/-- The last node of an identity. -/
def lastNode? (inputs : FusionInputs) (id : EntityId) : Option StructuralNode :=
  inputs.graph.nodes.reverse.find? fun node => id = node.id

/-- The first node of an identity. -/
def firstNode? (inputs : FusionInputs) (id : EntityId) : Option StructuralNode :=
  inputs.graph.nodes.find? fun node => id = node.id

/-- The last vector of an identity, which is empty if there is none. -/
def lastVector (inputs : FusionInputs) (id : EntityId) : Vector32 :=
  ((inputs.embeddings.reverse.find? fun record => id = record.id).map (·.vector)).getD []

/-- An identity has no last summary exactly if it has none at all. -/
theorem lastSummary?_eq_none_iff (inputs : FusionInputs) (id : EntityId) :
    inputs.lastSummary? id = none ↔ id ∉ inputs.summaries.map (·.id) := by
  rw [← Option.not_isSome_iff_eq_none, lastSummary?, Fusion.isSome_find?_id_iff, List.map_reverse,
    List.mem_reverse]

/-- The last summary of an identity is one of this identity. -/
theorem id_of_lastSummary? {inputs : FusionInputs} {id : EntityId} {record : SummaryRecord}
    (h : inputs.lastSummary? id = some record) : record.id = id := by
  simpa [eq_comm] using List.find?_some h

/-- The first node of an identity is one of this identity. -/
theorem id_of_firstNode? {inputs : FusionInputs} {id : EntityId} {node : StructuralNode}
    (h : inputs.firstNode? id = some node) : node.id = id := by
  simpa [eq_comm] using List.find?_some h

end FusionInputs

namespace Fusion

section Inputs

variable {ladder : Ladder} {ensembleMode : Bool} {inputs : FusionInputs}
  {targets : Option TargetSet} {store : Store} {events : List Event}
  {outcome : StructuralNode → Option LadderOutcome}

/-- The table of nodes keeps the last node of each identity. -/
theorem get?_nodesById (inputs : FusionInputs) (id : EntityId) :
    (nodesById inputs.graph).get? id = inputs.lastNode? id := by
  rw [nodesById, OrderedMap.get?_ofList_map, Option.map_id']
  rfl

/-- The table of vectors keeps the last vector of each identity. -/
theorem vectorFor_vectorsById (inputs : FusionInputs) (id : EntityId) :
    vectorFor (vectorsById inputs.embeddings) id = inputs.lastVector id := by
  rw [vectorFor, vectorsById, OrderedMap.get?_ofList_map]
  rfl

/-! ## Uncovered nodes -/

/-- Where identities are not repeated, an element is found by its identity exactly if it is
listed. -/
theorem find?_id_eq_some_iff {α : Type} {idOf : α → EntityId} {xs : List α}
    (hnodup : (xs.map idOf).Nodup) (id : EntityId) (x : α) :
    (xs.find? fun y => id = idOf y) = some x ↔ x ∈ xs ∧ id = idOf x := by
  constructor
  · intro h
    exact ⟨List.mem_of_find?_eq_some h, by simpa using List.find?_some h⟩
  · rintro ⟨hmem, rfl⟩
    obtain ⟨y, hfind⟩ := Option.isSome_iff_exists.1
      ((isSome_find?_id_iff idOf xs (idOf x)).2 (List.mem_map_of_mem hmem))
    have hsame : idOf x = idOf y := by simpa using List.find?_some hfind
    rw [hfind, List.inj_on_of_nodup_map hnodup hmem (List.mem_of_find?_eq_some hfind) hsame]

/-- No identity has two uncovered nodes. -/
theorem nodup_uncoveredNodes (inputs : FusionInputs) (targets : Option TargetSet) :
    ((uncoveredNodes inputs targets).map (·.id)).Nodup :=
  nodup_firstNodes _

/-- The uncovered node of an identity that takes part and has no summary is its first node. -/
theorem find?_uncoveredNodes (id : EntityId) :
    ((uncoveredNodes inputs targets).find? fun node => id = node.id) =
      if takesPart targets id = true ∧ inputs.lastSummary? id = none then inputs.firstNode? id
      else none := by
  have hprimary : (primaryIds inputs targets).contains id = true ↔
      takesPart targets id = true ∧ inputs.lastSummary? id ≠ none := by
    rw [mem_primaryIds_iff, Ne, FusionInputs.lastSummary?_eq_none_iff, not_not]
  rw [uncoveredNodes, find?_firstNodes, List.find?_filter, FusionInputs.firstNode?]
  split
  · rename_i htold
    apply List.find?_congr
    intro node _
    by_cases hid : id = node.id
    · subst hid
      have hnot : (primaryIds inputs targets).contains node.id = false := by
        rw [← Bool.not_eq_true, hprimary]
        exact fun h => h.2 htold.2
      simp [htold.1, hnot]
    · simp [hid]
  · rename_i hnot
    rw [List.find?_eq_none]
    intro node _ hmatch
    simp only [Bool.and_eq_true, Bool.not_eq_true', decide_eq_true_eq] at hmatch
    obtain ⟨⟨htakes, huncovered⟩, rfl⟩ := hmatch
    rw [← Bool.not_eq_true, hprimary] at huncovered
    exact hnot ⟨htakes, by_contra fun h => huncovered ⟨htakes, h⟩⟩

/-- An uncovered node takes part, has no summary and is the first one of its identity. -/
theorem mem_uncoveredNodes_iff (node : StructuralNode) :
    node ∈ uncoveredNodes inputs targets ↔
      takesPart targets node.id = true ∧ inputs.lastSummary? node.id = none ∧
        inputs.firstNode? node.id = some node := by
  have hfind := find?_id_eq_some_iff (nodup_uncoveredNodes inputs targets) node.id node
  rw [and_iff_left rfl, find?_uncoveredNodes] at hfind
  rw [← hfind]
  split
  · rename_i htold
    simp [htold]
  · rename_i hnot
    constructor
    · rintro ⟨⟩
    · rintro ⟨htakes, hnone, _⟩
      exact absurd ⟨htakes, hnone⟩ hnot

/-! ## Outcomes of ladders -/

/-- The steps of nodes whose ladders come to the outcomes that a function says. -/
def stepsBy (outcome : StructuralNode → Option LadderOutcome) (nodes : List StructuralNode) :
    List Step :=
  nodes.map fun node => (node, outcome node)

theorem map_fst_stepsBy (nodes : List StructuralNode) :
    (stepsBy outcome nodes).map (·.1) = nodes := by
  rw [stepsBy, List.map_map]
  exact List.map_id nodes

/-- The steps of nodes in two parts are those of both parts. -/
theorem stepsBy_append (nodes more : List StructuralNode) :
    stepsBy outcome (nodes ++ more) = stepsBy outcome nodes ++ stepsBy outcome more :=
  List.map_append

/-- What becomes of the ladders of different nodes is a function of the nodes. -/
theorem exists_stepsBy {steps : List Step} (hnodup : (steps.map (·.1)).Nodup) :
    ∃ outcome, steps = stepsBy outcome (steps.map (·.1)) := by
  induction steps with
  | nil => exact ⟨fun _ => none, rfl⟩
  | cons step rest ih =>
      rw [List.map_cons, List.nodup_cons] at hnodup
      obtain ⟨outcome, hrest⟩ := ih hnodup.2
      refine ⟨fun node => if node = step.1 then step.2 else outcome node, ?_⟩
      have hsame : stepsBy (fun node => if node = step.1 then step.2 else outcome node)
          (rest.map (·.1)) = stepsBy outcome (rest.map (·.1)) := by
        apply List.map_congr_left
        intro node hnode
        simp only [ne_of_mem_of_not_mem hnode hnodup.1, if_false]
      rw [stepsBy, List.map_cons, List.map_cons, ← stepsBy, hsame, ← hrest, if_pos rfl]

/-- The courses of an application of inputs, by the outcomes of its ladders as a function of the
nodes. -/
theorem course_apply_by {result : Option (Store × FusionReport)}
    (h : (apply ladder ensembleMode inputs targets store).Course events result) :
    ∃ outcome, Tried ladder (stepsBy outcome (uncoveredNodes inputs targets)) events ∧
      result = some (merge ensembleMode inputs targets
        (stepsBy outcome (uncoveredNodes inputs targets)) store) := by
  obtain ⟨steps, hnodes, htried, hresult⟩ := course_apply_iff.1 h
  have hnodup : (steps.map (·.1)).Nodup := by
    rw [hnodes]
    exact List.Nodup.of_map _ (nodup_uncoveredNodes inputs targets)
  obtain ⟨outcome, hsteps⟩ := exists_stepsBy hnodup
  rw [hnodes] at hsteps
  subst hsteps
  exact ⟨outcome, htried, hresult⟩

/-- The courses of a fusion, by the outcomes of its ladders as a function of the nodes. -/
theorem course_fuse_by {result : Option (Store × FusionReport)}
    (h : (fuse ladder ensembleMode inputs targets store).Course events result) :
    ∃ outcome, Tried ladder (stepsBy outcome (uncoveredNodes inputs targets)) events ∧
      result = some (merge ensembleMode inputs targets
        (stepsBy outcome (uncoveredNodes inputs targets)) (base targets store)) := by
  rw [fuse_eq_apply] at h
  exact course_apply_by h

/-- A fusion into a keyed store leaves a keyed one. -/
theorem keyed_of_course {fused : Store} {report : FusionReport} (hkeyed : store.Keyed)
    (hcourse : (fuse ladder ensembleMode inputs targets store).Course events
      (some (fused, report))) : fused.Keyed := by
  obtain ⟨outcome, -, hmerged⟩ := course_fuse_by hcourse
  obtain ⟨hstore, -⟩ := Prod.mk.inj (Option.some.inj hmerged)
  rw [hstore]
  exact merge_keyed _ (base_keyed hkeyed)

/-! ## The entity of an identity -/

/-- The entity that the inputs tell for an identity: that of its last summary, or else that of its
first node with the outcome of the ladder. -/
def told (ensembleMode : Bool) (inputs : FusionInputs)
    (outcome : StructuralNode → Option LadderOutcome) (id : EntityId) : Option Entity :=
  match inputs.lastSummary? id with
  | some record =>
      some (primaryEntity ensembleMode (vectorsById inputs.embeddings)
        ((nodesById inputs.graph).get? id) record)
  | none =>
      (inputs.firstNode? id).map fun node =>
        nodeEntity (vectorsById inputs.embeddings) (node, outcome node)

/-- Of the entities made of summaries the last one with an identity is that of its last summary. -/
theorem find?_primaryEntities (id : EntityId) :
    ((primaryEntities ensembleMode inputs targets).reverse.find? fun entity => id = entity.id) =
      if takesPart targets id then
        (inputs.lastSummary? id).map fun record =>
          primaryEntity ensembleMode (vectorsById inputs.embeddings)
            ((nodesById inputs.graph).get? record.id) record
      else none := by
  rw [primaryEntities, primaryRecords, ← List.map_reverse, ← List.filter_reverse, List.find?_map,
    List.find?_filter]
  split
  · rename_i htakes
    congr 1
    apply List.find?_congr
    intro record _
    by_cases hid : id = record.id
    · simp [primaryEntity, ← hid, htakes]
    · simp [primaryEntity, hid]
  · rename_i hnot
    rw [Option.map_eq_none_iff, List.find?_eq_none]
    intro record _ hmatch
    simp only [Function.comp_apply, primaryEntity, decide_eq_true_eq] at hmatch
    obtain ⟨htakes, rfl⟩ := hmatch
    exact hnot htakes

/-- Of the entities of uncovered nodes the one with an identity is that of its first node. -/
theorem find?_nodeEntities (id : EntityId) :
    (((stepsBy outcome (uncoveredNodes inputs targets)).map
      (nodeEntity (vectorsById inputs.embeddings))).reverse.find? fun entity => id = entity.id) =
        if takesPart targets id = true ∧ inputs.lastSummary? id = none then
          (inputs.firstNode? id).map fun node =>
            nodeEntity (vectorsById inputs.embeddings) (node, outcome node)
        else none := by
  have hreverse : ((uncoveredNodes inputs targets).reverse.find? fun node => id = node.id) =
      (uncoveredNodes inputs targets).find? fun node => id = node.id := by
    have hnodup := nodup_uncoveredNodes inputs targets
    apply Option.ext
    intro node
    rw [find?_id_eq_some_iff hnodup, find?_id_eq_some_iff, List.mem_reverse]
    rw [List.map_reverse]
    exact List.nodup_reverse.2 hnodup
  have hid : ∀ node, (nodeEntity (vectorsById inputs.embeddings) (node, outcome node)).id =
      node.id := fun node => nodeEntity_id _ _
  rw [stepsBy, List.map_map, ← List.map_reverse, List.find?_map]
  simp only [Function.comp_def, hid]
  rw [hreverse, find?_uncoveredNodes]
  split <;> rfl

/-- A fusion stores for every identity that takes part the entity that its inputs tell, if they tell
one, and leaves all others as they were. -/
theorem get?_merge (id : EntityId) :
    (merge ensembleMode inputs targets (stepsBy outcome (uncoveredNodes inputs targets))
      store).1.get? id =
        if takesPart targets id then (told ensembleMode inputs outcome id).or (store.get? id)
        else store.get? id := by
  rw [merge_get?, Store.get?_upsertAll, freshEntities, List.reverse_append, List.find?_append,
    find?_nodeEntities, find?_primaryEntities]
  cases takesPart targets id with
  | false => simp
  | true =>
      cases hsummary : inputs.lastSummary? id with
      | none => simp [told, hsummary]
      | some record => simp [told, hsummary, FusionInputs.id_of_lastSummary? hsummary]

/-! ## What the inputs tell of an entity -/

/-- What is told of an entity that has a summary of its own. -/
structure OfSummary (ensembleMode : Bool) (inputs : FusionInputs) (record : SummaryRecord)
    (entity : Entity) : Prop where
  id : entity.id = record.id
  summary : entity.summary =
    if ensembleMode = true ∧ record.views ≠ [] then Ensemble.integrate record.views
    else record.text
  details : ∀ perspective, entity.details.get? perspective =
    (record.views.reverse.find? fun view => perspective = view.perspective).map (·.text)
  ofLastNode : ∀ node, inputs.lastNode? record.id = some node →
    entity.kind = node.kind ∧ entity.label = node.label ∧ entity.complexity = node.complexity
  withoutNode : inputs.lastNode? record.id = none →
    entity.kind = record.kind ∧ entity.label = record.id.label ∧ entity.complexity = 0
  attributes : ∀ key, entity.attributes.get? key =
    if key = "summary_source" then some "summarizer"
    else if key = "confidence" then some (Decimal.fixed 2 record.confidence)
    else none

/-- What is told of an entity without a summary of its own, whose ladder had an outcome or
panicked. -/
structure OfNode (node : StructuralNode) (outcome : Option LadderOutcome) (entity : Entity) :
    Prop where
  id : entity.id = node.id
  summary : entity.summary = (outcome.map (·.text)).getD ""
  details : entity.details = .empty
  structural :
    entity.kind = node.kind ∧ entity.label = node.label ∧ entity.complexity = node.complexity
  attributes : ∀ key, entity.attributes.get? key =
    if key = "summary_source" then outcome.map (·.tier) else none

/-- The entity of a summary is what its record, the last vector and the last node tell. -/
theorem ofSummary_primaryEntity (record : SummaryRecord) :
    OfSummary ensembleMode inputs record
      (primaryEntity ensembleMode (vectorsById inputs.embeddings)
        ((nodesById inputs.graph).get? record.id) record) := by
  rw [get?_nodesById]
  refine ⟨rfl, ?_, ?_, ?_, ?_, ?_⟩
  · simp [primaryEntity]
  · exact fun perspective => OrderedMap.get?_ofList_map ..
  · intro node hnode
    simp [primaryEntity, hnode]
  · intro hnone
    simp [primaryEntity, hnone]
  · intro key
    simp only [primaryEntity, OrderedMap.get?_ofList, sourceAttribute, List.reverse_cons,
      List.reverse_nil, List.nil_append, List.cons_append, List.find?_cons, List.find?_nil]
    by_cases hsource : key = "summary_source"
    · simp [hsource]
    · by_cases hconfidence : key = "confidence" <;> simp [hsource, hconfidence]

/-- The entity of a node is what the node and the outcome of its ladder tell. -/
theorem ofNode_nodeEntity (vectors : OrderedMap EntityId Vector32) (node : StructuralNode)
    (outcome : Option LadderOutcome) :
    OfNode node outcome (nodeEntity vectors (node, outcome)) := by
  cases outcome with
  | none =>
      refine ⟨rfl, rfl, rfl, ⟨rfl, rfl, rfl⟩, ?_⟩
      intro key
      exact (ite_self none).symm
  | some outcome =>
      refine ⟨rfl, rfl, rfl, ⟨rfl, rfl, rfl⟩, ?_⟩
      intro key
      simp only [nodeEntity, synthesizedEntity, OrderedMap.get?_ofList, sourceAttribute,
        List.reverse_singleton, List.find?_singleton, decide_eq_true_eq]
      split <;> rfl

/-! ## Full fusions -/

/-- What the inputs and the outcomes of the ladders say that the store is after a full fusion. -/
structure FullyFused (ensembleMode : Bool) (inputs : FusionInputs)
    (outcome : StructuralNode → Option LadderOutcome) (fused : Store) : Prop where
  ids : ∀ id, fused.contains id = true ↔
    id.isEmpty = false ∧ (id ∈ inputs.summaries.map (·.id) ∨ id ∈ inputs.graph.nodes.map (·.id))
  summarized : ∀ id record, id.isEmpty = false → inputs.lastSummary? id = some record →
    ∃ entity, fused.get? id = some entity ∧ OfSummary ensembleMode inputs record entity
  synthesized : ∀ id node, id.isEmpty = false → inputs.lastSummary? id = none →
    inputs.firstNode? id = some node →
      ∃ entity, fused.get? id = some entity ∧ OfNode node (outcome node) entity
  vectors : ∀ id entity, fused.get? id = some entity → entity.embedding = inputs.lastVector id
  unscored : ∀ id entity, fused.get? id = some entity → entity.score = 0
  edges : fused.edges = inputs.graph.physicalEdges ++ inputs.inferredEdges

/-- Without targets the identities that take part are those which are not empty. -/
theorem takesPart_none (id : EntityId) : takesPart none id = true ↔ id.isEmpty = false := by
  simp [takesPart, inScope]

/-- The inputs tell an entity of each identity that has a summary or a node, and of no other. -/
theorem isSome_told_iff (ensembleMode : Bool) (inputs : FusionInputs)
    (outcome : StructuralNode → Option LadderOutcome) (id : EntityId) :
    (told ensembleMode inputs outcome id).isSome = true ↔
      id ∈ inputs.summaries.map (·.id) ∨ id ∈ inputs.graph.nodes.map (·.id) := by
  rw [told]
  split
  · rename_i hsummary
    have hmem : id ∈ inputs.summaries.map (·.id) :=
      by_contra fun h => by simp [(inputs.lastSummary?_eq_none_iff id).2 h] at hsummary
    simp [hmem]
  · rename_i hnone
    have hnot := (inputs.lastSummary?_eq_none_iff id).1 hnone
    rw [Option.isSome_map, FusionInputs.firstNode?, isSome_find?_id_iff]
    simp [hnot]

/-- A told entity has the last vector of its identity, and is not scored. -/
theorem embedding_score_of_told {id : EntityId} {entity : Entity}
    (h : told ensembleMode inputs outcome id = some entity) :
    entity.embedding = inputs.lastVector id ∧ entity.score = 0 := by
  rw [told] at h
  split at h
  · rename_i record hsummary
    cases h
    rw [← vectorFor_vectorsById, ← FusionInputs.id_of_lastSummary? hsummary]
    exact ⟨rfl, rfl⟩
  · obtain ⟨node, hnode, rfl⟩ := Option.map_eq_some_iff.1 h
    rw [← vectorFor_vectorsById, ← FusionInputs.id_of_firstNode? hnode]
    cases outcome node <;> exact ⟨rfl, rfl⟩

/-- Merging into the empty store comes to what the inputs and the outcomes say. -/
theorem fullyFused_merge :
    FullyFused ensembleMode inputs outcome
      (merge ensembleMode inputs none (stepsBy outcome (uncoveredNodes inputs none))
        .empty).1 := by
  have hget (id : EntityId) : (merge ensembleMode inputs none
      (stepsBy outcome (uncoveredNodes inputs none)) .empty).1.get? id =
        if id.isEmpty = false then told ensembleMode inputs outcome id else none := by
    rw [get?_merge]
    simp only [takesPart_none, Store.get?_empty, Option.or_none]
  have htold {id : EntityId} {entity : Entity} (h : (merge ensembleMode inputs none
      (stepsBy outcome (uncoveredNodes inputs none)) .empty).1.get? id = some entity) :
        told ensembleMode inputs outcome id = some entity := by
    rw [hget] at h
    split at h
    · exact h
    · cases h
  refine ⟨?_, ?_, ?_, ?_, ?_, ?_⟩
  · intro id
    rw [Store.contains_eq_isSome, hget, ← isSome_told_iff ensembleMode inputs outcome]
    split <;> simp_all
  · intro id record hid hrecord
    have hentity : told ensembleMode inputs outcome id =
        some (primaryEntity ensembleMode (vectorsById inputs.embeddings)
          ((nodesById inputs.graph).get? record.id) record) := by
      rw [told, hrecord, FusionInputs.id_of_lastSummary? hrecord]
    exact ⟨_, (hget id).trans ((if_pos hid).trans hentity), ofSummary_primaryEntity record⟩
  · intro id node hid hnone hnode
    have hentity : told ensembleMode inputs outcome id =
        some (nodeEntity (vectorsById inputs.embeddings) (node, outcome node)) := by
      rw [told, hnone, hnode]
      rfl
    exact ⟨_, (hget id).trans ((if_pos hid).trans hentity), ofNode_nodeEntity ..⟩
  · exact fun id entity h => (embedding_score_of_told (htold h)).1
  · exact fun id entity h => (embedding_score_of_told (htold h)).2
  · exact edges_full

/-- A full fusion ends with the store that its inputs and the outcomes of its ladders tell, whatever
was stored before.  It tries the ladder of the first node of every identity that has no summary,
each node once. -/
theorem full_fusion {result : Option (Store × FusionReport)}
    (h : (fuse ladder ensembleMode inputs none store).Course events result) :
    ∃ fused report nodes outcome, result = some (fused, report) ∧
      Tried ladder (stepsBy outcome nodes) events ∧ nodes.Nodup ∧
      (∀ node, node ∈ nodes ↔ node.id.isEmpty = false ∧ inputs.lastSummary? node.id = none ∧
        inputs.firstNode? node.id = some node) ∧
      FullyFused ensembleMode inputs outcome fused := by
  obtain ⟨outcome, htried, rfl⟩ := course_fuse_by h
  refine ⟨_, _, uncoveredNodes inputs none, outcome, rfl, htried,
    (nodup_uncoveredNodes inputs none).of_map _, ?_, fullyFused_merge⟩
  intro node
  rw [mem_uncoveredNodes_iff, takesPart_none]

end Inputs

/-! ## Repeated records -/

namespace RepeatedRecords

def a : EntityId := ⟨"a.py"⟩

def b : EntityId := ⟨"b.py"⟩

def c : EntityId := ⟨"c.py"⟩

/-- The node of a file under a label. -/
def labelled (id : EntityId) (label : String) : StructuralNode :=
  { StructuralNode.new id .file with label := label }

/-- The first identity has two summaries and two nodes, the second one has two nodes and two
vectors, and two records are without an identity. -/
def inputs : FusionInputs where
  summaries := [⟨a, "Reads.", 1, .function, []⟩, ⟨⟨""⟩, "Nothing.", 1, .file, []⟩,
    ⟨a, "Writes.", 1, .function, [⟨"usage", "Is called."⟩, ⟨"usage", "Is used."⟩]⟩]
  graph := {
    nodes := [labelled a "first", labelled b "first", .new ⟨""⟩ .file, labelled a "last",
      labelled b "last", .new c .file]
    edges := [⟨b, a, "imports"⟩, ⟨b, a, "imports"⟩, ⟨a, ⟨"d.py"⟩, "imports"⟩] }
  embeddings := [⟨b, [1]⟩, ⟨b, [2]⟩]
  logicalEdges := [.logical a b "similar"]

def ladder : Ladder := [.custom "cache"]

/-- The only tier of the ladder panics for the third identity. -/
def host : Host Unit where
  cancelled _ := false
  answer
    | .attemptTier _ node, state =>
        (if node.id = c then .panicked else .ok (some " Imports. "), state)
    | request, state => (request.anyAnswer, state)

/-- The store after a full fusion in ensemble mode. -/
def fused : Store :=
  (((fuse ladder true inputs none .empty).run host ()).1.map (·.1)).getD .empty

end RepeatedRecords

/-- Of repeated records the last summary and its last node count, but the first node where there is
no summary; a panic leaves the summary empty. -/
theorem full_fusion_repeated_records :
    (∃ outcome, FullyFused true RepeatedRecords.inputs outcome RepeatedRecords.fused) ∧
      RepeatedRecords.fused.entities.map (fun entity => (entity.label, entity.summary)) =
        [("last", "Is called."), ("first", "Imports."), ("c.py", "")] ∧
      RepeatedRecords.fused.entities.map (·.details.entries) =
        [[("usage", "Is used.")], [], []] := by
  obtain ⟨fused, report, nodes, outcome, hresult, -, -, -, hfull⟩ :=
    full_fusion (Plan.course_run RepeatedRecords.host
      (fuse RepeatedRecords.ladder true RepeatedRecords.inputs none .empty) ())
  have hsame : RepeatedRecords.fused = fused := by
    rw [RepeatedRecords.fused, hresult]
    rfl
  exact ⟨⟨outcome, hsame ▸ hfull⟩, by decide +kernel, by decide +kernel⟩

end Fusion
end CodeSurvey
