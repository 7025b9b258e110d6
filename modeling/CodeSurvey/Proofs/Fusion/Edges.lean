import CodeSurvey.Proofs.Fusion.Courses
import Mathlib.Data.List.Perm.Basic

/-!
# Fused edges by kind

A full fusion stores the physical edges of the graph and the logical edges that were inferred.  A
selective one swaps the physical edges of its targets for those of the graph, and adds the logical
edges that are not stored yet.  So as long as the graph stays the same the stored physical edges
are its edges, in some order, and nothing is added that is stored already.

## Main results

* `Fusion.edges_full`, `Fusion.edgesOf_physical_full`, `Fusion.edgesOf_logical_full`: the edges after
  a full fusion.
* `Fusion.edgesOf_physical_perm`: a selective fusion of the same graph, or of nothing, only permutes
  the physical edges.
* `Fusion.edgesOf_logical_of_known`: a selective fusion that infers nothing new keeps the logical
  edges.
* `Fusion.nodup_edgesOf_logical`: distinct logical edges stay distinct.
-/

namespace CodeSurvey

/-- The stored edges of a kind, in order of insertion. -/
def Store.edgesOf (store : Store) (kind : EdgeKind) : List Edge :=
  store.edges.filter fun edge => edge.kind = kind

/-- The edges of a kind are the stored ones that are of this kind. -/
theorem Store.mem_edgesOf_iff {store : Store} {kind : EdgeKind} {edge : Edge} :
    edge ∈ store.edgesOf kind ↔ edge ∈ store.edges ∧ edge.kind = kind := by
  simp [edgesOf]

/-- The edges of a graph as they are stored. -/
def StructuralGraph.physicalEdges (graph : StructuralGraph) : List Edge :=
  graph.edges.map fun edge => Edge.physical edge.source edge.target edge.relation

/-- All edges of a graph are physical. -/
theorem StructuralGraph.kind_of_mem_physicalEdges {graph : StructuralGraph} {edge : Edge}
    (h : edge ∈ graph.physicalEdges) : edge.kind = .physical := by
  obtain ⟨_, _, rfl⟩ := List.mem_map.1 h
  rfl

/-- The inferred edges as they are stored. -/
def FusionInputs.inferredEdges (inputs : FusionInputs) : List Edge :=
  inputs.logicalEdges.map fun edge => Edge.logical edge.source edge.target edge.relation

/-- All inferred edges are logical. -/
theorem FusionInputs.kind_of_mem_inferredEdges {inputs : FusionInputs} {edge : Edge}
    (h : edge ∈ inputs.inferredEdges) : edge.kind = .logical := by
  obtain ⟨_, _, rfl⟩ := List.mem_map.1 h
  rfl

/-- What was inferred is stored as it is. -/
theorem FusionInputs.inferredEdges_eq {inputs : FusionInputs}
    (hkind : ∀ edge ∈ inputs.logicalEdges, edge.kind = .logical) :
    inputs.inferredEdges = inputs.logicalEdges := by
  refine (List.map_congr_left ?_).trans (List.map_id _)
  intro edge hedge
  have hlogical := hkind edge hedge
  obtain ⟨source, target, kind, relation⟩ := edge
  cases hlogical
  rfl

namespace Fusion

variable {ensembleMode : Bool} {inputs : FusionInputs} {targets : Option TargetSet} {store : Store}
  {steps : List Step}

/-! ## Parts of the fused edges -/

/-- The physical edges that a fusion adds are those of the graph that start in its scope. -/
theorem newPhysicalEdges_eq (graph : StructuralGraph) (targets : Option TargetSet) :
    newPhysicalEdges graph targets =
      graph.physicalEdges.filter fun edge => inScope targets edge.source := by
  rw [newPhysicalEdges, StructuralGraph.physicalEdges, List.filter_map]
  rfl

/-- The edges that are added from the graph are physical. -/
theorem kind_of_mem_newPhysicalEdges {graph : StructuralGraph} {edge : Edge}
    (h : edge ∈ newPhysicalEdges graph targets) : edge.kind = .physical := by
  obtain ⟨_, _, rfl⟩ := List.mem_map.1 h
  rfl

/-- The logical edges that a fusion adds are among the inferred ones, in their order. -/
theorem newLogicalEdges_sublist :
    (newLogicalEdges inputs.logicalEdges targets store).Sublist inputs.inferredEdges := by
  have hcandidates : ((inputs.logicalEdges.filter fun edge => inScope targets edge.source).map
      fun edge => Edge.logical edge.source edge.target edge.relation).Sublist
        inputs.inferredEdges := List.filter_sublist.map _
  cases targets with
  | none => exact hcandidates
  | some set => exact List.filter_sublist.trans hcandidates

/-- The edges that are added from the inference are logical. -/
theorem kind_of_mem_newLogicalEdges {edge : Edge}
    (h : edge ∈ newLogicalEdges inputs.logicalEdges targets store) : edge.kind = .logical :=
  FusionInputs.kind_of_mem_inferredEdges (newLogicalEdges_sublist.subset h)

/-- Among edges of one kind all are of this kind. -/
theorem filter_eq_self_of_kind {edges : List Edge} {kind : EdgeKind}
    (h : ∀ edge ∈ edges, edge.kind = kind) :
    (edges.filter fun edge => edge.kind = kind) = edges :=
  List.filter_eq_self.2 fun edge hedge => by simp [h edge hedge]

/-- Among edges of one kind none is of another. -/
theorem filter_eq_nil_of_kind {edges : List Edge} {kind other : EdgeKind}
    (h : ∀ edge ∈ edges, edge.kind = kind) (hne : kind ≠ other) :
    (edges.filter fun edge => edge.kind = other) = [] :=
  List.filter_eq_nil_iff.2 fun edge hedge => by simp [h edge hedge, hne]

/-- The physical edges are those kept and the new ones. -/
theorem edgesOf_physical_merge :
    (merge ensembleMode inputs targets steps store).1.edgesOf .physical =
      ((keptEdges inputs.graph targets store.edges).filter fun edge => edge.kind = .physical) ++
        newPhysicalEdges inputs.graph targets := by
  rw [Store.edgesOf, merge_edges, List.filter_append, List.filter_append,
    filter_eq_self_of_kind fun edge => kind_of_mem_newPhysicalEdges,
    filter_eq_nil_of_kind (fun edge => kind_of_mem_newLogicalEdges) (by decide), List.append_nil]

/-- Logical edges are never swapped. -/
theorem filter_logical_keptEdges (graph : StructuralGraph) (edges : List Edge) :
    ((keptEdges graph targets edges).filter fun edge => edge.kind = .logical) =
      edges.filter fun edge => edge.kind = .logical := by
  cases targets with
  | none => rfl
  | some set =>
      rw [keptEdges]
      split
      · rfl
      · rw [List.filter_filter]
        apply List.filter_congr
        intro edge _
        cases hkind : edge.kind <;> simp

/-- The logical edges are the stored ones and the new ones. -/
theorem edgesOf_logical_merge :
    (merge ensembleMode inputs targets steps store).1.edgesOf .logical =
      store.edgesOf .logical ++ newLogicalEdges inputs.logicalEdges targets
        (withoutStaleEdges inputs.graph targets
          (synthesis ensembleMode inputs targets steps store).store) := by
  rw [Store.edgesOf, merge_edges, List.filter_append, List.filter_append,
    filter_eq_nil_of_kind (fun edge => kind_of_mem_newPhysicalEdges) (by decide),
    filter_eq_self_of_kind fun edge => kind_of_mem_newLogicalEdges, List.append_nil,
    filter_logical_keptEdges, Store.edgesOf]

/-- The logical edges are the stored ones and those inferred in scope. -/
theorem mem_edgesOf_logical_merge_iff (steps : List Step)
    (hkind : ∀ edge ∈ inputs.logicalEdges, edge.kind = .logical) (edge : Edge) :
    edge ∈ (merge ensembleMode inputs targets steps store).1.edgesOf .logical ↔
      (inScope targets edge.source = true ∧ edge ∈ inputs.logicalEdges) ∨
        edge ∈ store.edgesOf .logical := by
  obtain ⟨source, target, kind, relation⟩ := edge
  simp only [Store.mem_edgesOf_iff]
  cases kind with
  | physical =>
      have hnot : ⟨source, target, .physical, relation⟩ ∉ inputs.logicalEdges := by
        intro hedge
        cases hkind _ hedge
      simp [hnot]
  | logical =>
      simp only [and_true]
      exact logical_mem_merge_iff steps hkind source target relation

/-! ## Full fusions -/

/-- A full fusion stores the edges of the graph and then the inferred ones. -/
theorem edges_full :
    (merge ensembleMode inputs none steps .empty).1.edges =
      inputs.graph.physicalEdges ++ inputs.inferredEdges := by
  rw [merge_edges, newPhysicalEdges_eq]
  simp [keptEdges, newLogicalEdges, FusionInputs.inferredEdges, Store.empty]

/-- The physical edges after a full fusion are those of the graph. -/
theorem edgesOf_physical_full :
    (merge ensembleMode inputs none steps .empty).1.edgesOf .physical =
      inputs.graph.physicalEdges := by
  rw [Store.edgesOf, edges_full, List.filter_append,
    filter_eq_self_of_kind fun edge => StructuralGraph.kind_of_mem_physicalEdges,
    filter_eq_nil_of_kind (fun edge => FusionInputs.kind_of_mem_inferredEdges) (by decide),
    List.append_nil]

/-- The logical edges after a full fusion are the inferred ones. -/
theorem edgesOf_logical_full :
    (merge ensembleMode inputs none steps .empty).1.edgesOf .logical = inputs.inferredEdges := by
  rw [Store.edgesOf, edges_full, List.filter_append,
    filter_eq_nil_of_kind (fun edge => StructuralGraph.kind_of_mem_physicalEdges) (by decide),
    filter_eq_self_of_kind fun edge => FusionInputs.kind_of_mem_inferredEdges, List.nil_append]

/-! ## Selective fusions -/

/-- Swapping edges for those of the same graph only permutes them. -/
theorem edgesOf_physical_perm {graph : StructuralGraph} (set : TargetSet)
    (hgraph : inputs.graph = graph ∨ inputs.graph = .empty)
    (hstore : (store.edgesOf .physical).Perm graph.physicalEdges) :
    ((merge ensembleMode inputs (some set) steps store).1.edgesOf .physical).Perm
      graph.physicalEdges := by
  rw [edgesOf_physical_merge, keptEdges]
  split
  · rename_i hempty
    -- The graph reports nothing, so nothing is swapped.
    have hnone : newPhysicalEdges inputs.graph (some set) = [] := by
      simp only [StructuralGraph.isEmpty, Bool.and_eq_true, List.isEmpty_iff] at hempty
      simp [newPhysicalEdges, hempty.2]
    rw [hnone, List.append_nil]
    exact hstore
  · rename_i hreported
    have hsame : inputs.graph = graph := by
      rcases hgraph with hsame | hempty
      · exact hsame
      · exact absurd (by rw [hempty]; rfl) hreported
    have hkept : ((store.edges.filter fun edge =>
        edge.kind ≠ .physical || !set.contains edge.source).filter fun edge =>
          edge.kind = .physical) =
        (store.edgesOf .physical).filter fun edge => !set.contains edge.source := by
      rw [Store.edgesOf, List.filter_filter, List.filter_filter]
      apply List.filter_congr
      intro edge _
      cases edge.kind <;> simp
    rw [hkept, newPhysicalEdges_eq, hsame]
    refine ((hstore.filter _).append_right _).trans ?_
    refine List.perm_append_comm.trans ?_
    exact List.filter_append_perm (fun edge => set.contains edge.source) graph.physicalEdges

/-- Logical edges that are stored already are not added again. -/
theorem not_mem_edges_of_mem_newLogicalEdges {set : TargetSet} {edge : Edge}
    (h : edge ∈ newLogicalEdges inputs.logicalEdges (some set)
      (withoutStaleEdges inputs.graph (some set)
        (synthesis ensembleMode inputs (some set) steps store).store)) : edge ∉ store.edges := by
  have hlogical := kind_of_mem_newLogicalEdges h
  have hnew := (List.mem_filter.1 h).2
  simp only [Bool.not_eq_true', List.contains_eq_mem, decide_eq_false_iff_not] at hnew
  obtain ⟨source, target, kind, relation⟩ := edge
  cases hlogical
  rwa [← Edge.logical, withoutStaleEdges_edges, synthesis_store, Store.upsertAll_edges,
    logical_mem_keptEdges_iff] at hnew

/-- A selective fusion adds no logical edge that the store already has. -/
theorem newLogicalEdges_eq_nil {set : TargetSet} (hknown : inputs.inferredEdges ⊆ store.edges) :
    newLogicalEdges inputs.logicalEdges (some set)
      (withoutStaleEdges inputs.graph (some set)
        (synthesis ensembleMode inputs (some set) steps store).store) = [] := by
  rw [List.eq_nil_iff_forall_not_mem]
  intro edge hedge
  exact not_mem_edges_of_mem_newLogicalEdges hedge (hknown (newLogicalEdges_sublist.subset hedge))

/-- A selective fusion that infers nothing new leaves the logical edges alone. -/
theorem edgesOf_logical_of_known (set : TargetSet) (hknown : inputs.inferredEdges ⊆ store.edges) :
    (merge ensembleMode inputs (some set) steps store).1.edgesOf .logical =
      store.edgesOf .logical := by
  rw [edgesOf_logical_merge, newLogicalEdges_eq_nil hknown, List.append_nil]

/-! ## Distinct edges -/

/-- If no edge is inferred twice and the stored logical edges are distinct, they stay so. -/
theorem nodup_edgesOf_logical (hinferred : inputs.inferredEdges.Nodup)
    (hstore : (store.edgesOf .logical).Nodup) :
    ((merge ensembleMode inputs targets steps (base targets store)).1.edgesOf .logical).Nodup := by
  cases targets with
  | none =>
      rw [base_none, edgesOf_logical_full]
      exact hinferred
  | some set =>
      rw [base_some, edgesOf_logical_merge, List.nodup_append]
      refine ⟨hstore, hinferred.sublist newLogicalEdges_sublist, ?_⟩
      rintro edge hstored _ hnew rfl
      exact not_mem_edges_of_mem_newLogicalEdges hnew (Store.mem_edgesOf_iff.1 hstored).1

end Fusion
end CodeSurvey
