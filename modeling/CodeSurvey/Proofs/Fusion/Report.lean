import CodeSurvey.Proofs.Fusion.Selective
import Mathlib.Data.List.Dedup

/-!
# What the report of a fusion adds up to

The numbers of a report are counted while the fusion goes through its inputs, in which an identity
may occur many times, with a summary and with nodes, and its ladder may panic.  This file says what
they add up to at the end: every identity that takes part is counted once, and so is every edge that
is added.

## Main results

* `Fusion.Synthesis.addAll_counted`, `Fusion.Synthesis.addAll_balanced`: the counts after all
  ladders.
* `Fusion.length_coveredIds`: an identity has a summary or an uncovered node, but not both.
* `Fusion.Accounted`: what a report says of a fusion.
* `Fusion.report_accounting`: every report says so.
-/

namespace CodeSurvey
namespace Fusion

section Accounting

variable {ladder : Ladder} {ensembleMode : Bool} {inputs : FusionInputs}
  {targets : Option TargetSet} {store : Store} {events : List Event}
  {outcome : StructuralNode → Option LadderOutcome} {vectors : OrderedMap EntityId Vector32}

/-! ## Counts of the synthesis -/

/-- Each ladder is counted once, whether it had an outcome or panicked. -/
theorem Synthesis.add_counted (synthesis : Synthesis) (step : Step) :
    (synthesis.add vectors step.1 step.2).synthesized +
        (synthesis.add vectors step.1 step.2).failed.length =
      synthesis.synthesized + synthesis.failed.length + 1 := by
  obtain ⟨node, _ | outcome⟩ := step
  · simp only [Synthesis.add, List.length_append, List.length_singleton]
    omega
  · simp only [Synthesis.add]
    omega

/-- Each step counts either as an entity that was synthesized or as a failed one. -/
theorem Synthesis.addAll_counted (synthesis : Synthesis) (steps : List Step) :
    (synthesis.addAll vectors steps).synthesized +
        (synthesis.addAll vectors steps).failed.length =
      synthesis.synthesized + synthesis.failed.length + steps.length := by
  induction steps generalizing synthesis with
  | nil => rfl
  | cons step rest ih =>
      have hrest := ih (synthesis.add vectors step.1 step.2)
      rw [Synthesis.add_counted] at hrest
      rw [List.length_cons, Nat.add_comm rest.length, ← Nat.add_assoc]
      exact hrest

/-- The tiers share the entities that were synthesized. -/
def Synthesis.Balanced (synthesis : Synthesis) : Prop :=
  synthesis.tierCounts.values.sum = synthesis.synthesized

/-- A step keeps the count of the tiers in balance with the synthesized entities. -/
theorem Synthesis.Balanced.add {synthesis : Synthesis} (h : synthesis.Balanced) (step : Step) :
    (synthesis.add vectors step.1 step.2).Balanced := by
  obtain ⟨node, _ | outcome⟩ := step
  · exact h
  · have hsum := synthesis.tierCounts.sum_values_insert outcome.tier
      ((synthesis.tierCounts.get? outcome.tier).getD 0 + 1)
    simp only [Synthesis.Balanced, Synthesis.add] at h ⊢
    omega

/-- All steps together keep the count of the tiers in balance. -/
theorem Synthesis.addAll_balanced {synthesis : Synthesis} (h : synthesis.Balanced)
    (steps : List Step) : (synthesis.addAll vectors steps).Balanced := by
  induction steps generalizing synthesis with
  | nil => exact h
  | cons step rest ih => exact ih (h.add step)

/-- The identities of the nodes whose ladders panicked, in order. -/
def failedIds (steps : List Step) : List EntityId :=
  (steps.filter fun step => step.2.isNone).map (·.1.id)

/-- The failed identities are listed in the order of the steps. -/
theorem Synthesis.addAll_failed (synthesis : Synthesis) (steps : List Step) :
    (synthesis.addAll vectors steps).failed = synthesis.failed ++ failedIds steps := by
  induction steps generalizing synthesis with
  | nil => exact (List.append_nil _).symm
  | cons step rest ih =>
      refine (ih (synthesis.add vectors step.1 step.2)).trans ?_
      obtain ⟨node, _ | outcome⟩ := step
      · simp [Synthesis.add, failedIds]
      · simp [Synthesis.add, failedIds]

/-- An identity has failed if the ladder of one of its nodes came to nothing. -/
theorem mem_failedIds_stepsBy_iff {nodes : List StructuralNode} {id : EntityId} :
    id ∈ failedIds (stepsBy outcome nodes) ↔
      ∃ node ∈ nodes, outcome node = none ∧ node.id = id := by
  simp [failedIds, stepsBy, and_assoc]

/-- No identity fails twice, since each one has at most one uncovered node. -/
theorem nodup_failedIds :
    (failedIds (stepsBy outcome (uncoveredNodes inputs targets))).Nodup := by
  have hids : ((stepsBy outcome (uncoveredNodes inputs targets)).map (·.1.id)).Nodup := by
    rw [stepsBy, List.map_map]
    exact nodup_uncoveredNodes inputs targets
  exact hids.sublist (List.filter_sublist.map _)

/-! ## The identities that take part -/

/-- The distinct identities of the summaries and the nodes that take part. -/
def coveredIds (inputs : FusionInputs) (targets : Option TargetSet) : List EntityId :=
  ((inputs.summaries.map (·.id) ++ inputs.graph.nodes.map (·.id)).filter (takesPart targets)).dedup

/-- The covered identities are those for which a fusion makes an entity. -/
theorem mem_coveredIds_iff {id : EntityId} :
    id ∈ coveredIds inputs targets ↔ Covers inputs targets id := by
  rw [coveredIds, List.mem_dedup, List.mem_filter, List.mem_append, Covers, and_comm]

/-- An identity that takes part has a summary, or else one uncovered node. -/
theorem length_coveredIds :
    (coveredIds inputs targets).length =
      (primaryIds inputs targets).size + (uncoveredNodes inputs targets).length := by
  have hnodup : ((primaryIds inputs targets).keys ++
      (uncoveredNodes inputs targets).map (·.id)).Nodup := by
    rw [List.nodup_append]
    refine ⟨OrderedMap.keys_nodup _, nodup_uncoveredNodes inputs targets, ?_⟩
    rintro id hprimary _ huncovered rfl
    rw [OrderedMap.mem_keys_iff, mem_primaryIds_iff] at hprimary
    exact ((mem_map_uncoveredNodes_iff id).1 huncovered).2.1 hprimary.2
  have hperm : (coveredIds inputs targets).Perm ((primaryIds inputs targets).keys ++
      (uncoveredNodes inputs targets).map (·.id)) := by
    rw [coveredIds, List.perm_ext_iff_of_nodup (List.nodup_dedup _) hnodup]
    intro id
    rw [← coveredIds, mem_coveredIds_iff, List.mem_append, OrderedMap.mem_keys_iff, mem_primaryIds_iff,
      mem_map_uncoveredNodes_iff, Covers]
    by_cases hsummary : id ∈ inputs.summaries.map (·.id) <;> simp [hsummary]
  rw [hperm.length_eq, List.length_append, OrderedMap.keys, List.length_map, List.length_map,
    OrderedMap.size]

/-! ## Edges that are removed -/

/-- Whether a fusion removes an edge: it has targets, something has been parsed, and the edge is
physical and starts at a target. -/
def isRemoved (graph : StructuralGraph) (targets : Option TargetSet) (edge : Edge) : Bool :=
  match targets with
  | none => false
  | some set => !graph.isEmpty && isSwapped set edge

/-- Kept are the edges that are not removed. -/
theorem keptEdges_eq_filter (graph : StructuralGraph) (targets : Option TargetSet)
    (edges : List Edge) :
    keptEdges graph targets edges = edges.filter fun edge => !isRemoved graph targets edge := by
  cases targets with
  | none => exact (List.filter_eq_self.2 fun _ _ => rfl).symm
  | some set =>
      rw [keptEdges_some]
      cases hempty : graph.isEmpty <;> simp [isRemoved, hempty]

/-! ## The report -/

/-- What a report says of a fusion of a store. -/
structure Accounted (inputs : FusionInputs) (targets : Option TargetSet) (store fused : Store)
    (report : FusionReport) : Prop where
  covered : report.primary + report.synthesized + report.failed.length =
    (coveredIds inputs targets).length
  tiers : report.tierCounts.values.sum = report.synthesized
  failedOnce : report.failed.Nodup
  failedNotPrimary : ∀ id ∈ report.failed, id ∉ inputs.summaries.map (·.id)
  failedEmpty : ∀ id ∈ report.failed,
    ∃ entity, fused.get? id = some entity ∧ entity.id = id ∧ entity.summary = "" ∧ entity.score = 0
  edges : ∃ physical logical,
    fused.edges = (store.edges.filter fun edge => !isRemoved inputs.graph targets edge) ++
      physical ++ logical ∧
    physical.length = report.physicalEdges ∧ (∀ edge ∈ physical, edge.kind = .physical) ∧
    logical.length = report.logicalEdges ∧ ∀ edge ∈ logical, edge.kind = .logical
  growth : fused.edges.length + (store.edges.filter (isRemoved inputs.graph targets)).length =
    store.edges.length + (report.physicalEdges + report.logicalEdges)
  dangling : report.danglingEdges = (fused.edges.filter fun edge =>
    edge.source ∉ fused.ids ∨ edge.target ∉ fused.ids).length

/-- The report lists the identities whose ladders panicked. -/
theorem failed_merge (steps : List Step) :
    (merge ensembleMode inputs targets steps store).2.failed = failedIds steps :=
  Synthesis.addAll_failed _ steps

/-- The report counts each uncovered node once. -/
theorem counted_merge (steps : List Step) :
    (merge ensembleMode inputs targets steps store).2.synthesized +
      (merge ensembleMode inputs targets steps store).2.failed.length = steps.length :=
  (Synthesis.addAll_counted _ steps).trans (Nat.zero_add _)

/-- The report counts each synthesized entity under one tier. -/
theorem balanced_merge (steps : List Step) :
    (merge ensembleMode inputs targets steps store).2.tierCounts.values.sum =
      (merge ensembleMode inputs targets steps store).2.synthesized := by
  have hstart : Synthesis.Balanced
      ⟨addPrimary ensembleMode inputs targets store, 0, [], .empty⟩ := rfl
  exact Synthesis.addAll_balanced hstart steps

/-- The store has the old edges without the removed ones, and the new ones of both kinds. -/
theorem length_edges_merge (steps : List Step) :
    (merge ensembleMode inputs targets steps store).1.edges.length +
        (store.edges.filter (isRemoved inputs.graph targets)).length =
      store.edges.length + ((merge ensembleMode inputs targets steps store).2.physicalEdges +
        (merge ensembleMode inputs targets steps store).2.logicalEdges) := by
  have hstored : store.edges.length = _ :=
    List.length_eq_length_filter_add (isRemoved inputs.graph targets)
  rw [merge_edges, keptEdges_eq_filter, List.length_append, List.length_append]
  simp only [merge]
  omega

/-- An identity whose ladder panicked has no summary. -/
theorem not_mem_summaries_of_failed {id : EntityId}
    (h : id ∈ failedIds (stepsBy outcome (uncoveredNodes inputs targets))) :
    id ∉ inputs.summaries.map (·.id) := by
  obtain ⟨node, hnode, -, rfl⟩ := mem_failedIds_stepsBy_iff.1 h
  have hnone := ((mem_uncoveredNodes_iff node).1 hnode).2.1
  exact (inputs.lastSummary?_eq_none_iff node.id).1 hnone

/-- The entity of a node whose ladder panicked is stored without a summary and a score. -/
theorem get?_merge_of_failed {id : EntityId}
    (h : id ∈ failedIds (stepsBy outcome (uncoveredNodes inputs targets))) :
    ∃ entity, (merge ensembleMode inputs targets (stepsBy outcome (uncoveredNodes inputs targets))
      store).1.get? id = some entity ∧ entity.id = id ∧ entity.summary = "" ∧ entity.score = 0 := by
  obtain ⟨node, hnode, hfailed, rfl⟩ := mem_failedIds_stepsBy_iff.1 h
  obtain ⟨htakes, hnone, hfirst⟩ := (mem_uncoveredNodes_iff node).1 hnode
  refine ⟨bareEntity (vectorsById inputs.embeddings) node, ?_, rfl, rfl, rfl⟩
  rw [get?_merge, if_pos htakes, told, hnone, hfirst]
  simp [hfailed, nodeEntity]

/-- The report accounts for the merged store. -/
theorem accounted_merge :
    Accounted inputs targets store
      (merge ensembleMode inputs targets (stepsBy outcome (uncoveredNodes inputs targets)) store).1
      (merge ensembleMode inputs targets (stepsBy outcome (uncoveredNodes inputs targets))
        store).2 := by
  refine ⟨?_, balanced_merge _, ?_, ?_, ?_, ?_, length_edges_merge _,
    congrArg List.length (Store.danglingEdges_eq_filter _)⟩
  · rw [Nat.add_assoc, counted_merge, stepsBy, List.length_map, length_coveredIds]
    rfl
  · rw [failed_merge]
    exact nodup_failedIds
  · rw [failed_merge]
    exact fun id hid => not_mem_summaries_of_failed hid
  · rw [failed_merge]
    exact fun id hid => get?_merge_of_failed hid
  · rw [merge_edges, keptEdges_eq_filter]
    exact ⟨_, _, rfl, rfl, fun _ => kind_of_mem_newPhysicalEdges, rfl,
      fun _ => kind_of_mem_newLogicalEdges⟩

/-- A full fusion stores an entity for every identity that takes part, and no other. -/
theorem size_full :
    (merge ensembleMode inputs none (stepsBy outcome (uncoveredNodes inputs none)) .empty).1.size =
      (coveredIds inputs none).length := by
  apply OrderedMap.size_eq_length (List.nodup_dedup _)
  intro id
  rw [← coveredIds, mem_coveredIds_iff, Covers, takesPart_none]
  exact fullyFused_merge.ids id

/-- Whatever inputs are applied to a store, with and without targets, the report accounts for what
comes of them.  A fusion applies its inputs to the store, or to the empty store when it is a full
one, and then all entities that there are at the end have been counted. -/
theorem report_accounting :
    (∀ events result, (apply ladder ensembleMode inputs targets store).Course events result →
      ∃ fused report, result = some (fused, report) ∧
        Accounted inputs targets store fused report) ∧
    ∀ events result, (fuse ladder ensembleMode inputs targets store).Course events result →
      ∃ fused report, result = some (fused, report) ∧
        Accounted inputs targets (base targets store) fused report ∧
        (targets = none →
          report.primary + report.synthesized + report.failed.length = fused.size) := by
  constructor
  · intro events result h
    obtain ⟨outcome, _, rfl⟩ := course_apply_by h
    exact ⟨_, _, rfl, accounted_merge⟩
  · intro events result h
    obtain ⟨outcome, _, rfl⟩ := course_fuse_by h
    refine ⟨_, _, rfl, accounted_merge, ?_⟩
    rintro rfl
    exact accounted_merge.covered.trans size_full.symm

end Accounting

/-! ## The report of repeated records -/

namespace RepeatedRecords

/-- The store and the report of a full fusion. -/
def full : Store × FusionReport :=
  ((fuse ladder true inputs none .empty).run host ()).1.get (by decide +kernel)

end RepeatedRecords

/-- Of three identities one has summaries, one is synthesized and one fails, however many records
each of them has.  The edge to an unknown file dangles. -/
theorem report_accounting_repeated_records :
    Accounted RepeatedRecords.inputs none .empty RepeatedRecords.full.1 RepeatedRecords.full.2 ∧
      RepeatedRecords.full.2.primary + RepeatedRecords.full.2.synthesized +
        RepeatedRecords.full.2.failed.length = RepeatedRecords.full.1.size ∧
      (RepeatedRecords.full.2.primary, RepeatedRecords.full.2.synthesized,
        RepeatedRecords.full.2.failed) = (1, 1, [RepeatedRecords.c]) ∧
      RepeatedRecords.full.2.tierCounts.entries = [("cache", 1)] ∧
      RepeatedRecords.full.2.danglingEdges = 1 := by
  obtain ⟨fused, report, hresult, haccounted, hsize⟩ :=
    report_accounting.2 _ _
      (Plan.course_run_get RepeatedRecords.host
        (fuse RepeatedRecords.ladder true RepeatedRecords.inputs none .empty) ()
        (by decide +kernel))
  have hsame : RepeatedRecords.full = (fused, report) := Option.some.inj hresult
  exact ⟨hsame ▸ haccounted, hsame ▸ hsize rfl, by decide +kernel, by decide +kernel,
    by decide +kernel⟩

end Fusion
end CodeSurvey
