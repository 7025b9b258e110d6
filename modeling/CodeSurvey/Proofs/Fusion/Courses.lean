import CodeSurvey.Fusion
import CodeSurvey.Proofs.Capability.Protocol
import CodeSurvey.Proofs.Store

/-!
# What a fusion does

A fusion asks the outside for nothing but the ladder's summaries, and a panic in a ladder is
contained.  Given what became of each ladder, the fused store and the report are a function of the
inputs, the targets and the earlier store.  This file states that function, and reads the fused
entities and edges off it.

## Main results

* `Fusion.course_fuse_iff`: the courses of a fusion, which all end with the merged store and report.
* `Fusion.merge_get?`: the fused entities, one identity at a time.
* `Fusion.merge_edges`: the fused edges.
* `Fusion.silent_fuse`: the observer is told nothing.
-/

namespace CodeSurvey

/-! ## Calls of a ladder -/

/-- Whether a tier of a ladder has asked for a summary. -/
def Event.isTierCall : Event → Bool
  | .answered (.summarizeSnippet ..) _ => true
  | .answered (.attemptTier ..) _ => true
  | _ => false

/-- The protocol of a ladder: its tiers ask for summaries, and nothing else happens. -/
abbrev TierCalls (_ : Unit) (event : Event) (_ : Unit) : Prop := event.isTierCall = true

theorem TierCalls.isCall {before after : Unit} {event : Event} (h : TierCalls before event after) :
    event.isCall = true := by
  unfold TierCalls Event.isTierCall at h
  split at h
  · rfl
  · rfl
  · simp at h

/-- A tier may crash, but it makes no other calls than its own. -/
theorem Tier.follows_attempt (tier : Tier) (place : Nat) (node : StructuralNode) :
    (tier.attempt place node).Follows TierCalls (fun _ _ => True) () := by
  cases tier with
  | docComment => trivial
  | template => trivial
  | summarizer =>
      intro answer
      refine ⟨(), rfl, ?_⟩
      cases answer <;> trivial
  | custom name =>
      intro answer
      refine ⟨(), rfl, ?_⟩
      cases answer <;> trivial

/-- A ladder that is climbed asks for summaries, and nothing else happens. -/
theorem Ladder.follows_resolveFrom (node : StructuralNode) (ladder : Ladder) (place : Nat) :
    (resolveFrom node place ladder).Follows TierCalls (fun _ _ => True) () := by
  induction ladder generalizing place with
  | nil => trivial
  | cons tier rest ih =>
      refine (tier.follows_attempt place node).bind ?_ fun _ _ => trivial
      intro _ text _
      cases text with
      | none => exact ih (place + 1)
      | some text =>
          simp only
          split
          · exact ih (place + 1)
          · trivial

namespace Fusion

variable {ladder : Ladder} {ensembleMode : Bool} {inputs : FusionInputs}
  {targets : Option TargetSet} {store : Store} {events : List Event}

/-! ## Ladders and their outcomes -/

/-- A node with what became of its ladder. -/
abbrev Step := StructuralNode × Option LadderOutcome

/-- Whether a ladder may come to the outcome of a step. -/
def Resolved (ladder : Ladder) (step : Step) : Prop :=
  ∃ events, (ladder.resolve step.1).Course events step.2

/-- The steps of a fusion: each uncovered node, in order, with a possible outcome. -/
structure Steps (ladder : Ladder) (inputs : FusionInputs) (targets : Option TargetSet)
    (steps : List Step) : Prop where
  nodes : steps.map (·.1) = uncoveredNodes inputs targets
  resolved : ∀ step ∈ steps, Resolved ladder step

/-- The entity of an uncovered node. -/
def nodeEntity (vectors : OrderedMap EntityId Vector32) : Step → Entity
  | (node, some outcome) => synthesizedEntity vectors node outcome
  | (node, none) => bareEntity vectors node

/-- The synthesis after all steps. -/
def Synthesis.addAll (vectors : OrderedMap EntityId Vector32) (synthesis : Synthesis)
    (steps : List Step) : Synthesis :=
  steps.foldl (fun synthesis step => synthesis.add vectors step.1 step.2) synthesis

/-- A step of the synthesis stores the entity of its node. -/
theorem Synthesis.add_store (vectors : OrderedMap EntityId Vector32) (synthesis : Synthesis)
    (step : Step) :
    (synthesis.add vectors step.1 step.2).store =
      synthesis.store.upsert (nodeEntity vectors step) := by
  obtain ⟨node, outcome⟩ := step
  cases outcome <;> rfl

/-- All steps together store the entities of their nodes, in order. -/
theorem Synthesis.addAll_store (vectors : OrderedMap EntityId Vector32) (synthesis : Synthesis)
    (steps : List Step) :
    (synthesis.addAll vectors steps).store =
      synthesis.store.upsertAll (steps.map (nodeEntity vectors)) := by
  induction steps generalizing synthesis with
  | nil => rfl
  | cons step rest ih =>
      have htail := ih (synthesis.add vectors step.1 step.2)
      rw [Synthesis.add_store] at htail
      exact htail

/-- The ladders of some nodes are tried one after the other, make these calls and come to these
outcomes. -/
inductive Tried (ladder : Ladder) : List Step → List Event → Prop where
  | nil : Tried ladder [] []
  | cons {step : Step} {steps : List Step} {calls events : List Event}
      (first : (ladder.resolve step.1).Course calls step.2) (rest : Tried ladder steps events) :
      Tried ladder (step :: steps) (calls ++ events)

/-- Ladders that were tried have come to outcomes that they may come to. -/
theorem Tried.resolved {steps : List Step} (h : Tried ladder steps events) :
    ∀ step ∈ steps, Resolved ladder step := by
  induction h with
  | nil => simp
  | cons first rest ih => exact List.forall_mem_cons.2 ⟨⟨_, first⟩, ih⟩

/-- The calls of a ladder are among the calls of all ladders. -/
theorem Tried.exists_calls {steps : List Step} (h : Tried ladder steps events) {step : Step}
    (hstep : step ∈ steps) :
    ∃ calls, (ladder.resolve step.1).Course calls step.2 ∧ calls ⊆ events := by
  induction h with
  | nil => cases hstep
  | @cons first steps calls events hfirst rest ih =>
      rcases List.mem_cons.1 hstep with rfl | hrest
      · exact ⟨calls, hfirst, List.subset_append_left _ _⟩
      · obtain ⟨later, hlater, hsubset⟩ := ih hrest
        exact ⟨later, hlater, List.subset_append_of_subset_right _ hsubset⟩

/-- Ladders may be tried in two runs, one after the other. -/
theorem Tried.append {steps more : List Step} {others : List Event} (h : Tried ladder steps events)
    (hmore : Tried ladder more others) : Tried ladder (steps ++ more) (events ++ others) := by
  induction h with
  | nil => exact hmore
  | cons first rest ih =>
      rw [List.append_assoc]
      exact .cons first ih

/-- The calls of the ladders tell their outcomes. -/
theorem Tried.unique {steps others : List Step} (h : Tried ladder steps events)
    (hother : Tried ladder others events) (hnodes : steps.map (·.1) = others.map (·.1)) :
    steps = others := by
  induction h generalizing others with
  | nil => exact (List.map_eq_nil_iff.1 hnodes.symm).symm
  | @cons step steps calls events first rest ih =>
      generalize hcalls : calls ++ events = all at hother
      cases hother with
      | nil => cases hnodes
      | @cons other others otherCalls otherEvents otherFirst otherRest =>
          obtain ⟨hnode : step.1 = other.1, hnodes⟩ := List.cons.inj hnodes
          rw [← hnode] at otherFirst
          obtain ⟨rfl, houtcome⟩ := first.unique otherFirst hcalls
          obtain rfl := List.append_cancel_left hcalls
          rw [ih otherRest hnodes, Prod.ext hnode houtcome]

/-- The ladders of all nodes are tried one after the other, and none of them ends the fusion. -/
theorem course_synthesize_iff {vectors : OrderedMap EntityId Vector32}
    {nodes : List StructuralNode} {synthesis : Synthesis} {result : Option Synthesis} :
    (synthesize ladder vectors nodes synthesis).Course events result ↔
      ∃ steps : List Step, steps.map (·.1) = nodes ∧ Tried ladder steps events ∧
        result = some (synthesis.addAll vectors steps) := by
  induction nodes generalizing synthesis events with
  | nil =>
      simp only [synthesize, Plan.course_done_iff, List.map_eq_nil_iff]
      constructor
      · rintro ⟨rfl, rfl⟩
        exact ⟨[], rfl, .nil, rfl⟩
      · rintro ⟨_, rfl, ⟨⟩, rfl⟩
        exact ⟨rfl, rfl⟩
  | cons node rest ih =>
      simp only [synthesize, Plan.bind_eq, Plan.course_bind_iff, Plan.course_contained_iff, ih]
      constructor
      · rintro (⟨outcome, calls, _, ⟨_, houtcome, ⟨⟩⟩, ⟨steps, hnodes, htried, rfl⟩, rfl⟩ |
          ⟨⟨_, _, ⟨⟩⟩, _⟩)
        exact ⟨(node, outcome) :: steps, by simp [hnodes], .cons houtcome htried, rfl⟩
      · rintro ⟨_, hnodes, htried, rfl⟩
        cases htried with
        | nil => cases hnodes
        | @cons step steps calls events first htried =>
            obtain ⟨rfl, rfl⟩ := List.cons.inj hnodes
            exact .inl ⟨step.2, calls, events, ⟨_, first, rfl⟩, ⟨steps, rfl, htried, rfl⟩, rfl⟩

/-- The synthesis never crashes, since every ladder is contained. -/
theorem follows_synthesize (vectors : OrderedMap EntityId Vector32) (nodes : List StructuralNode)
    (synthesis : Synthesis) :
    (synthesize ladder vectors nodes synthesis).Follows TierCalls (fun _ result => result ≠ none)
      () := by
  induction nodes generalizing synthesis with
  | nil => simp [synthesize]
  | cons node rest ih =>
      have hladder : (ladder.resolve node).contained.Follows TierCalls
          (fun _ result => result ≠ none) () :=
        Plan.Follows.contained ((Ladder.follows_resolveFrom node ladder 0).strengthen
          fun _ _ _ _ _ => by simp)
      exact hladder.bind (fun _ outcome _ => ih _) fun _ h => absurd rfl h

/-- A fusion makes only the calls of its ladders, and never crashes. -/
theorem follows_fuse :
    (fuse ladder ensembleMode inputs targets store).Follows TierCalls
      (fun _ result => result ≠ none) () := by
  have happly : ∀ store, (apply ladder ensembleMode inputs targets store).Follows TierCalls
      (fun _ result => result ≠ none) () := by
    intro store
    refine (follows_synthesize _ _ _).bind ?_ fun _ h => absurd rfl h
    intro _ synthesis _
    simp
  cases targets with
  | none => exact happly _
  | some set => exact happly _

/-- A fusion tells the observer nothing. -/
theorem silent_fuse : (fuse ladder ensembleMode inputs targets store).Silent :=
  follows_fuse.silent fun _ _ _ h => Event.isReport_eq_false_of_isCall (TierCalls.isCall h)

/-! ## The merged store -/

/-- The entities made of summaries, in order of the records. -/
def primaryEntities (ensembleMode : Bool) (inputs : FusionInputs) (targets : Option TargetSet) :
    List Entity :=
  (primaryRecords inputs targets).map fun record =>
    primaryEntity ensembleMode (vectorsById inputs.embeddings)
      ((nodesById inputs.graph).get? record.id) record

/-- All entities that a fusion stores, in the order in which it stores them. -/
def freshEntities (ensembleMode : Bool) (inputs : FusionInputs) (targets : Option TargetSet)
    (steps : List Step) : List Entity :=
  primaryEntities ensembleMode inputs targets ++
    steps.map (nodeEntity (vectorsById inputs.embeddings))

/-- The synthesis at the end of a fusion with these steps. -/
def synthesis (ensembleMode : Bool) (inputs : FusionInputs) (targets : Option TargetSet)
    (steps : List Step) (store : Store) : Synthesis :=
  Synthesis.addAll (vectorsById inputs.embeddings)
    ⟨addPrimary ensembleMode inputs targets store, 0, [], .empty⟩ steps

/-- The fused store and the report. -/
def merge (ensembleMode : Bool) (inputs : FusionInputs) (targets : Option TargetSet)
    (steps : List Step) (store : Store) : Store × FusionReport :=
  let synthesis := synthesis ensembleMode inputs targets steps store
  let kept := withoutStaleEdges inputs.graph targets synthesis.store
  let physical := newPhysicalEdges inputs.graph targets
  let logical := newLogicalEdges inputs.logicalEdges targets kept
  let fused := (kept.extendEdges physical).extendEdges logical
  (fused, {
    primary := (primaryIds inputs targets).size
    synthesized := synthesis.synthesized
    failed := synthesis.failed
    physicalEdges := physical.length
    logicalEdges := logical.length
    danglingEdges := fused.danglingEdges.length
    tierCounts := synthesis.tierCounts })

/-- The store that a fusion merges its inputs into. -/
def base (targets : Option TargetSet) (store : Store) : Store :=
  match targets with
  | none => .empty
  | some _ => store

@[simp]
theorem base_none : base none store = .empty :=
  rfl

@[simp]
theorem base_some (set : TargetSet) : base (some set) store = store :=
  rfl

/-- A full fusion begins without edges, and a selective one with all that are stored. -/
theorem mem_base_edges_iff {edge : Edge} :
    edge ∈ (base targets store).edges ↔ targets ≠ none ∧ edge ∈ store.edges := by
  cases targets with
  | none => simp [Store.empty]
  | some set => simp

/-- Inputs are applied by trying the ladders of the uncovered nodes, and this never crashes.  It ends
with the store and the report that the outcomes of the ladders determine. -/
theorem course_apply_iff {result : Option (Store × FusionReport)} :
    (apply ladder ensembleMode inputs targets store).Course events result ↔
      ∃ steps : List Step, steps.map (·.1) = uncoveredNodes inputs targets ∧
        Tried ladder steps events ∧
        result = some (merge ensembleMode inputs targets steps store) := by
  simp only [apply, Plan.bind_eq, Plan.course_bind_iff, Plan.pure_eq_done,
    Plan.course_done_iff, course_synthesize_iff]
  constructor
  · rintro (⟨_, calls, _, ⟨steps, hnodes, htried, ⟨⟩⟩, ⟨rfl, rfl⟩, rfl⟩ | ⟨⟨_, _, _, ⟨⟩⟩, _⟩)
    rw [List.append_nil]
    exact ⟨steps, hnodes, htried, rfl⟩
  · rintro ⟨steps, hnodes, htried, rfl⟩
    exact .inl ⟨_, events, [], ⟨steps, hnodes, htried, rfl⟩, ⟨rfl, rfl⟩, (List.append_nil _).symm⟩

/-- A fusion applies its inputs to the store that it merges them into. -/
theorem fuse_eq_apply :
    fuse ladder ensembleMode inputs targets store =
      apply ladder ensembleMode inputs targets (base targets store) := by
  cases targets <;> rfl

/-- A fusion tries the ladders of the uncovered nodes and never crashes.  It ends with the store and
the report that the outcomes of the ladders determine. -/
theorem course_fuse_iff {result : Option (Store × FusionReport)} :
    (fuse ladder ensembleMode inputs targets store).Course events result ↔
      ∃ steps : List Step, steps.map (·.1) = uncoveredNodes inputs targets ∧
        Tried ladder steps events ∧
        result = some (merge ensembleMode inputs targets steps (base targets store)) := by
  rw [fuse_eq_apply, course_apply_iff]

/-- The fused store and the report are told by the steps alone, not by the calls. -/
theorem course_fuse {result : Option (Store × FusionReport)}
    (h : (fuse ladder ensembleMode inputs targets store).Course events result) :
    ∃ steps, Steps ladder inputs targets steps ∧
      result = some (merge ensembleMode inputs targets steps (base targets store)) := by
  obtain ⟨steps, hnodes, htried, hresult⟩ := course_fuse_iff.1 h
  exact ⟨steps, ⟨hnodes, htried.resolved⟩, hresult⟩

/-! ## Fused entities -/

/-- Whether a fusion makes an entity for an identity: it takes part, and there is a summary or a
node for it. -/
def Covers (inputs : FusionInputs) (targets : Option TargetSet) (id : EntityId) : Prop :=
  takesPart targets id = true ∧
    (id ∈ inputs.summaries.map (·.id) ∨ id ∈ inputs.graph.nodes.map (·.id))

/-- What a fusion covers is in its scope. -/
theorem Covers.inScope {id : EntityId} (h : Covers inputs targets id) :
    inScope targets id = true := by
  have htakes := h.1
  simp only [takesPart, Bool.and_eq_true] at htakes
  exact htakes.2

/-- Taking the first node of each identity does not change which node of an identity is found. -/
theorem find?_firstNodes (nodes : List StructuralNode) (id : EntityId) :
    (firstNodes nodes).find? (fun node => id = node.id) =
      nodes.find? fun node => id = node.id := by
  suffices hfold : ∀ found : List StructuralNode,
      (nodes.foldl (fun found node =>
        if found.any fun other => other.id = node.id then found else found ++ [node])
          found).find? (fun node => id = node.id) =
        (found.find? fun node => id = node.id).or (nodes.find? fun node => id = node.id) by
    exact hfold []
  induction nodes with
  | nil => simp
  | cons node rest ih =>
      intro found
      rw [List.foldl_cons, ih]
      split
      · rename_i hany
        simp only [List.any_eq_true, decide_eq_true_eq] at hany
        obtain ⟨other, hother, hsame⟩ := hany
        by_cases hid : id = node.id
        · have hfound : (found.find? fun node => id = node.id).isSome = true :=
            List.find?_isSome.2 ⟨other, hother, by simp [hid, hsame]⟩
          obtain ⟨first, hfirst⟩ := Option.isSome_iff_exists.1 hfound
          rw [hfirst, Option.some_or, Option.some_or]
        · simp [hid]
      · rw [List.find?_append, Option.or_assoc, ← List.find?_append]
        rfl

/-- No identity has two first nodes. -/
theorem nodup_firstNodes (nodes : List StructuralNode) :
    ((firstNodes nodes).map (·.id)).Nodup := by
  suffices hfold : ∀ found : List StructuralNode, (found.map (·.id)).Nodup →
      ((nodes.foldl (fun found node =>
        if found.any fun other => other.id = node.id then found else found ++ [node])
          found).map (·.id)).Nodup by
    exact hfold [] List.nodup_nil
  induction nodes with
  | nil => exact fun found hfound => hfound
  | cons node rest ih =>
      intro found hfound
      rw [List.foldl_cons]
      apply ih
      split
      · exact hfound
      · rename_i hnone
        simp only [List.any_eq_true, decide_eq_true_eq, not_exists, not_and] at hnone
        rw [List.map_append, List.nodup_append]
        refine ⟨hfound, List.nodup_cons.2 ⟨List.not_mem_nil, List.nodup_nil⟩, ?_⟩
        rintro _ hid _ hnew rfl
        obtain ⟨other, hother, hsame⟩ := List.mem_map.1 hid
        rw [List.map_singleton, List.mem_singleton] at hnew
        exact hnone other hother (hsame.trans hnew)

/-- Some element with an identity is found exactly if the identity is listed. -/
theorem isSome_find?_id_iff {α : Type} (idOf : α → EntityId) (xs : List α) (id : EntityId) :
    (xs.find? fun x => id = idOf x).isSome = true ↔ id ∈ xs.map idOf := by
  rw [List.find?_isSome, List.mem_map]
  simp only [decide_eq_true_eq, eq_comm (a := id)]

/-- Taking the first node of each identity loses no identity. -/
theorem mem_map_firstNodes_iff (nodes : List StructuralNode) (id : EntityId) :
    id ∈ (firstNodes nodes).map (·.id) ↔ id ∈ nodes.map (·.id) := by
  rw [← isSome_find?_id_iff, ← isSome_find?_id_iff, find?_firstNodes]

/-- The primary identities are those that take part and have a summary. -/
theorem mem_primaryIds_iff (id : EntityId) :
    (primaryIds inputs targets).contains id = true ↔
      takesPart targets id = true ∧ id ∈ inputs.summaries.map (·.id) := by
  rw [primaryIds, OrderedSet.contains_ofElements, primaryRecords]
  simp only [List.mem_map, List.mem_filter]
  constructor
  · rintro ⟨record, ⟨hmem, htakes⟩, rfl⟩
    exact ⟨htakes, record, hmem, rfl⟩
  · rintro ⟨htakes, record, hmem, rfl⟩
    exact ⟨record, ⟨hmem, htakes⟩, rfl⟩

/-- The uncovered identities are those that take part and have a node, but no summary. -/
theorem mem_map_uncoveredNodes_iff (id : EntityId) :
    id ∈ (uncoveredNodes inputs targets).map (·.id) ↔
      takesPart targets id = true ∧ id ∉ inputs.summaries.map (·.id) ∧
        id ∈ inputs.graph.nodes.map (·.id) := by
  rw [uncoveredNodes, mem_map_firstNodes_iff]
  simp only [List.mem_map, List.mem_filter, Bool.and_eq_true, Bool.not_eq_true',
    ← Bool.not_eq_true, mem_primaryIds_iff]
  constructor
  · rintro ⟨node, ⟨hmem, htakes, hnot⟩, rfl⟩
    exact ⟨htakes, fun h => hnot ⟨htakes, h⟩, node, hmem, rfl⟩
  · rintro ⟨htakes, hnot, node, hmem, rfl⟩
    exact ⟨node, ⟨hmem, htakes, fun h => hnot h.2⟩, rfl⟩

/-- The entity of a node bears its identity. -/
theorem nodeEntity_id (vectors : OrderedMap EntityId Vector32) (step : Step) :
    (nodeEntity vectors step).id = step.1.id := by
  obtain ⟨node, outcome⟩ := step
  cases outcome <;> rfl

/-- The identities of the stored entities are the covered ones. -/
theorem mem_map_freshEntities_iff {steps : List Step} (hsteps : Steps ladder inputs targets steps)
    (id : EntityId) :
    id ∈ (freshEntities ensembleMode inputs targets steps).map (·.id) ↔
      Covers inputs targets id := by
  have hprimary : id ∈ (primaryEntities ensembleMode inputs targets).map (·.id) ↔
      takesPart targets id = true ∧ id ∈ inputs.summaries.map (·.id) := by
    rw [← mem_primaryIds_iff, primaryIds, OrderedSet.contains_ofElements, primaryEntities,
      List.map_map]
    rfl
  have hnodes : (steps.map (nodeEntity (vectorsById inputs.embeddings))).map (·.id) =
      (uncoveredNodes inputs targets).map (·.id) := by
    rw [← hsteps.nodes, List.map_map, List.map_map]
    exact List.map_congr_left fun step _ => nodeEntity_id _ step
  rw [freshEntities, List.map_append, List.mem_append, hprimary, hnodes,
    mem_map_uncoveredNodes_iff, Covers]
  by_cases hsummary : id ∈ inputs.summaries.map (·.id) <;> simp [hsummary]

/-- A fused entity has the vector of its identity, and is not scored yet. -/
theorem embedding_score_of_mem_freshEntities {steps : List Step} {entity : Entity}
    (h : entity ∈ freshEntities ensembleMode inputs targets steps) :
    entity.embedding = vectorFor (vectorsById inputs.embeddings) entity.id ∧ entity.score = 0 := by
  rcases List.mem_append.1 h with h | h
  · obtain ⟨record, _, rfl⟩ := List.mem_map.1 h
    exact ⟨rfl, rfl⟩
  · obtain ⟨⟨node, outcome⟩, _, rfl⟩ := List.mem_map.1 h
    cases outcome <;> exact ⟨rfl, rfl⟩

/-- Dropping stale edges leaves the entities alone. -/
theorem withoutStaleEdges_entries (graph : StructuralGraph) :
    (withoutStaleEdges graph targets store).entries = store.entries := by
  cases targets with
  | none => rfl
  | some set =>
      rw [withoutStaleEdges]
      split <;> rfl

/-- The synthesis stores the fresh entities, in order. -/
theorem synthesis_store {steps : List Step} :
    (synthesis ensembleMode inputs targets steps store).store =
      store.upsertAll (freshEntities ensembleMode inputs targets steps) := by
  rw [synthesis, Synthesis.addAll_store, freshEntities, Store.upsertAll_append]
  congr 1
  rw [addPrimary, Store.upsertAll, primaryEntities, List.foldl_map]

/-- In the fused store the fresh entities are found over those that were stored before. -/
theorem merge_get? (steps : List Step) (id : EntityId) :
    (merge ensembleMode inputs targets steps store).1.get? id =
      (store.upsertAll (freshEntities ensembleMode inputs targets steps)).get? id := by
  rw [← synthesis_store]
  simp only [merge, Store.get?, Store.extendEdges_entries, withoutStaleEdges_entries]

/-- Fused entities are stored under their own identities. -/
theorem merge_keyed (steps : List Step) (h : store.Keyed) :
    (merge ensembleMode inputs targets steps store).1.Keyed := by
  intro id entity hentity
  rw [merge_get?] at hentity
  exact h.upsertAll _ _ _ hentity

theorem base_keyed (h : store.Keyed) : (base targets store).Keyed := by
  cases targets with
  | none => exact Store.keyed_empty
  | some set => exact h

/-- What a fusion does not cover it leaves as it was. -/
theorem get?_merge_of_not_covers {steps : List Step} (hsteps : Steps ladder inputs targets steps)
    {id : EntityId} (h : ¬Covers inputs targets id) :
    (merge ensembleMode inputs targets steps store).1.get? id = store.get? id := by
  have hnone : ((freshEntities ensembleMode inputs targets steps).reverse.find? fun entity =>
      id = entity.id) = none := by
    rw [List.find?_eq_none]
    intro entity hmem hid
    have hmade : id ∈ (freshEntities ensembleMode inputs targets steps).map (·.id) :=
      List.mem_map.2 ⟨entity, List.mem_reverse.1 hmem, (of_decide_eq_true hid).symm⟩
    exact h ((mem_map_freshEntities_iff hsteps id).1 hmade)
  rw [merge_get?, Store.get?_upsertAll, hnone, Option.none_or]

/-- What a fusion covers it makes anew, with the vector of this pass and without a score. -/
theorem get?_merge_of_covers {steps : List Step} (hsteps : Steps ladder inputs targets steps)
    {id : EntityId} (h : Covers inputs targets id) :
    ∃ entity ∈ freshEntities ensembleMode inputs targets steps, entity.id = id ∧
      (merge ensembleMode inputs targets steps store).1.get? id = some entity := by
  have hmade : id ∈ (freshEntities ensembleMode inputs targets steps).map (·.id) :=
    (mem_map_freshEntities_iff hsteps id).2 h
  obtain ⟨witness, hwitness, hid⟩ := List.mem_map.1 hmade
  rw [merge_get?, Store.get?_upsertAll]
  cases hfind : (freshEntities ensembleMode inputs targets steps).reverse.find? fun entity =>
      id = entity.id with
  | none =>
      rw [List.find?_eq_none] at hfind
      exact absurd (decide_eq_true hid.symm) (hfind witness (List.mem_reverse.2 hwitness))
  | some entity =>
      have hsame := List.find?_some hfind
      simp only [decide_eq_true_eq] at hsame
      exact ⟨entity, List.mem_reverse.1 (List.mem_of_find?_eq_some hfind), hsame.symm, rfl⟩

/-! ## Fused edges -/

/-- The edges that a fusion keeps. -/
def keptEdges (graph : StructuralGraph) (targets : Option TargetSet) (edges : List Edge) :
    List Edge :=
  match targets with
  | none => edges
  | some set =>
      if graph.isEmpty then edges
      else edges.filter fun edge => edge.kind ≠ .physical || !set.contains edge.source

/-- Without stale edges there are the kept ones. -/
theorem withoutStaleEdges_edges (graph : StructuralGraph) :
    (withoutStaleEdges graph targets store).edges = keptEdges graph targets store.edges := by
  cases targets with
  | none => rfl
  | some set =>
      rw [withoutStaleEdges, keptEdges]
      split <;> rfl

/-- The fused edges: those kept, then the physical and the logical ones that are new. -/
theorem merge_edges (steps : List Step) :
    (merge ensembleMode inputs targets steps store).1.edges =
      keptEdges inputs.graph targets store.edges ++ newPhysicalEdges inputs.graph targets ++
        newLogicalEdges inputs.logicalEdges targets
          (withoutStaleEdges inputs.graph targets
            (synthesis ensembleMode inputs targets steps store).store) := by
  have hkept : (withoutStaleEdges inputs.graph targets
      (synthesis ensembleMode inputs targets steps store).store).edges =
        keptEdges inputs.graph targets store.edges := by
    rw [withoutStaleEdges_edges, synthesis_store, Store.upsertAll_edges]
  rw [← hkept]
  rfl

/-- Logical edges are never swapped. -/
theorem logical_mem_keptEdges_iff (graph : StructuralGraph) (edges : List Edge)
    (a b : EntityId) (relation : String) :
    Edge.logical a b relation ∈ keptEdges graph targets edges ↔
      Edge.logical a b relation ∈ edges := by
  cases targets with
  | none => exact Iff.rfl
  | some set =>
      rw [keptEdges]
      split
      · exact Iff.rfl
      · simp [Edge.logical]

/-- A logical edge is new if it was inferred from a source in scope and the store, on a selective
pass, does not have it. -/
theorem logical_mem_newLogicalEdges_iff {edges : List Edge}
    (hkind : ∀ edge ∈ edges, edge.kind = .logical) (a b : EntityId) (relation : String) :
    Edge.logical a b relation ∈ newLogicalEdges edges targets store ↔
      (inScope targets a = true ∧ Edge.logical a b relation ∈ edges) ∧
        (targets = none ∨ Edge.logical a b relation ∉ store.edges) := by
  have hcandidate : Edge.logical a b relation ∈
      (edges.filter fun edge => inScope targets edge.source).map (fun edge =>
        Edge.logical edge.source edge.target edge.relation) ↔
          inScope targets a = true ∧ Edge.logical a b relation ∈ edges := by
    rw [List.mem_map]
    constructor
    · rintro ⟨edge, hedge, hsame⟩
      obtain ⟨hmem, hscope⟩ := List.mem_filter.1 hedge
      have hlogical := hkind edge hmem
      obtain ⟨source, target, kind, relation⟩ := edge
      cases hlogical
      cases hsame
      exact ⟨hscope, hmem⟩
    · rintro ⟨hscope, hmem⟩
      exact ⟨_, List.mem_filter.2 ⟨hmem, hscope⟩, rfl⟩
  cases targets with
  | none =>
      rw [newLogicalEdges, hcandidate]
      simp
  | some set =>
      simp only [newLogicalEdges, List.mem_filter, hcandidate, reduceCtorEq, false_or,
        Bool.not_eq_true', List.contains_eq_mem, decide_eq_false_iff_not]

/-- The logical edges after a fusion are those from before and those that were inferred from a
source in scope. -/
theorem logical_mem_merge_iff (steps : List Step)
    (hkind : ∀ edge ∈ inputs.logicalEdges, edge.kind = .logical) (a b : EntityId)
    (relation : String) :
    Edge.logical a b relation ∈ (merge ensembleMode inputs targets steps store).1.edges ↔
      (inScope targets a = true ∧ Edge.logical a b relation ∈ inputs.logicalEdges) ∨
        Edge.logical a b relation ∈ store.edges := by
  have hphysical : Edge.logical a b relation ∉ newPhysicalEdges inputs.graph targets := by
    rw [newPhysicalEdges, List.mem_map]
    rintro ⟨edge, _, hsame⟩
    cases hsame
  rw [merge_edges, List.mem_append, List.mem_append, logical_mem_keptEdges_iff,
    logical_mem_newLogicalEdges_iff hkind, withoutStaleEdges_edges, synthesis_store,
    Store.upsertAll_edges, logical_mem_keptEdges_iff]
  by_cases hmem : Edge.logical a b relation ∈ store.edges <;> simp [hmem, hphysical]

end Fusion
end CodeSurvey
