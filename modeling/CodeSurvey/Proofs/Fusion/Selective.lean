import CodeSurvey.Proofs.Fusion.Incremental

/-!
# The edges after a selective fusion

A selective fusion takes the physical edges of its targets out of the store, unless nothing has been
parsed, and adds what was parsed and inferred about the targets behind the edges that are left.  This
file says what list of edges comes of it, for any stored edges and any inputs.

## Main results

* `Fusion.selectiveEdges`: the edges after a selective fusion, told from those before.
* `Fusion.merge_edges_selective`: a selective fusion stores just these edges.
* `Fusion.selective_edges`: the edges after a selective fusion.  No logical edge is lost, and the
  edges from elsewhere stay as they are.
-/

namespace CodeSurvey
namespace Fusion

section Selective

variable {ladder : Ladder} {ensembleMode : Bool} {inputs : FusionInputs} {set : TargetSet}
  {store : Store} {events : List Event} {steps : List Step} {edges : List Edge}

/-! ## The parts of the list -/

/-- The edges that are not swapped.  Where nothing has been parsed no edge is. -/
def remainingEdges (inputs : FusionInputs) (set : TargetSet) (edges : List Edge) : List Edge :=
  if inputs.graph.nodes = [] ∧ inputs.graph.edges = [] then edges
  else edges.filter fun edge => !isSwapped set edge

/-- The edges of the graph that start at a target. -/
def parsedEdges (inputs : FusionInputs) (set : TargetSet) : List Edge :=
  inputs.graph.physicalEdges.filter fun edge => set.contains edge.source

/-- The inferred edges that start at a target and are not among the logical edges yet.  One that was
inferred twice is added twice. -/
def unknownEdges (inputs : FusionInputs) (set : TargetSet) (edges : List Edge) : List Edge :=
  (inputs.inferredEdges.filter fun edge => set.contains edge.source).filter fun edge =>
    edge ∉ edges.filter fun edge => edge.kind = .logical

/-- What a selective fusion makes of a list of edges. -/
def selectiveEdges (inputs : FusionInputs) (set : TargetSet) (edges : List Edge) : List Edge :=
  remainingEdges inputs set edges ++ parsedEdges inputs set ++ unknownEdges inputs set edges

theorem keptEdges_eq_remainingEdges (edges : List Edge) :
    keptEdges inputs.graph (some set) edges = remainingEdges inputs set edges := by
  rw [keptEdges_some, remainingEdges]
  simp only [StructuralGraph.isEmpty, Bool.and_eq_true, List.isEmpty_iff]

/-- What is new is what was inferred in scope and is not among the edges of the store. -/
theorem newLogicalEdges_some (store : Store) :
    newLogicalEdges inputs.logicalEdges (some set) store =
      (inputs.inferredEdges.filter fun edge => set.contains edge.source).filter fun edge =>
        !store.edges.contains edge := by
  have hscope : (inputs.inferredEdges.filter fun edge => set.contains edge.source) =
      (inputs.logicalEdges.filter fun edge => set.contains edge.source).map fun edge =>
        Edge.logical edge.source edge.target edge.relation := by
    rw [FusionInputs.inferredEdges, List.filter_map]
    rfl
  rw [hscope]
  rfl

/-- Whether an inferred edge is known is told by the logical edges. -/
theorem newLogicalEdges_eq_unknownEdges :
    newLogicalEdges inputs.logicalEdges (some set)
        (withoutStaleEdges inputs.graph (some set)
          (synthesis ensembleMode inputs (some set) steps store).store) =
      unknownEdges inputs set store.edges := by
  rw [newLogicalEdges_some, unknownEdges]
  apply List.filter_congr
  intro edge hedge
  have hlogical := FusionInputs.kind_of_mem_inferredEdges (List.mem_filter.1 hedge).1
  obtain ⟨source, target, kind, relation⟩ := edge
  cases hlogical
  have hkept : Edge.logical source target relation ∈
      keptEdges inputs.graph (some set) store.edges ↔
        Edge.logical source target relation ∈ store.edges := logical_mem_keptEdges_iff ..
  rw [withoutStaleEdges_edges, synthesis_store, Store.upsertAll_edges]
  simp only [Edge.logical] at hkept
  simp [hkept]

/-- A selective fusion makes of the stored edges what it makes of any list of edges. -/
theorem merge_edges_selective (steps : List Step) :
    (merge ensembleMode inputs (some set) steps store).1.edges =
      selectiveEdges inputs set store.edges := by
  rw [merge_edges, newLogicalEdges_eq_unknownEdges, keptEdges_eq_remainingEdges,
    newPhysicalEdges_eq]
  rfl

/-- A selective fusion adds the logical edges that are unknown behind those that are stored. -/
theorem edgesOf_logical_merge_selective (steps : List Step) :
    (merge ensembleMode inputs (some set) steps store).1.edgesOf .logical =
      store.edgesOf .logical ++ unknownEdges inputs set store.edges := by
  rw [edgesOf_logical_merge, newLogicalEdges_eq_unknownEdges]

/-! ## What stays -/

theorem kind_of_mem_parsedEdges {edge : Edge} (h : edge ∈ parsedEdges inputs set) :
    edge.kind = .physical :=
  StructuralGraph.kind_of_mem_physicalEdges (List.mem_filter.1 h).1

theorem kind_of_mem_unknownEdges {edge : Edge} (h : edge ∈ unknownEdges inputs set edges) :
    edge.kind = .logical :=
  FusionInputs.kind_of_mem_inferredEdges (List.mem_filter.1 (List.mem_filter.1 h).1).1

/-- The edges that do not start at a target. -/
def outsideEdges (set : TargetSet) (edges : List Edge) : List Edge :=
  edges.filter fun edge => !set.contains edge.source

/-- Edges from elsewhere are neither removed nor added, and they keep their order. -/
theorem outsideEdges_selectiveEdges (edges : List Edge) :
    outsideEdges set (selectiveEdges inputs set edges) = outsideEdges set edges := by
  have hremaining : outsideEdges set (remainingEdges inputs set edges) = outsideEdges set edges := by
    rw [remainingEdges]
    split
    · rfl
    · rw [outsideEdges, List.filter_filter]
      apply List.filter_congr
      intro edge _
      cases hsource : set.contains edge.source <;> simp [isSwapped, hsource]
  have hparsed : outsideEdges set (parsedEdges inputs set) = [] := by
    rw [outsideEdges, List.filter_eq_nil_iff]
    intro edge hedge
    simp [(List.mem_filter.1 hedge).2]
  have hunknown : outsideEdges set (unknownEdges inputs set edges) = [] := by
    rw [outsideEdges, List.filter_eq_nil_iff]
    intro edge hedge
    simp [(List.mem_filter.1 (List.mem_filter.1 hedge).1).2]
  rw [outsideEdges, selectiveEdges, List.filter_append, List.filter_append, ← outsideEdges,
    ← outsideEdges, ← outsideEdges, hremaining, hparsed, hunknown, List.append_nil, List.append_nil]

/-- The edges after a selective fusion are those that are not swapped, followed by the edges of the
graph and by the unknown inferred edges that start at a target.  So all logical edges are still
there, in front of the new ones, and the edges that do not start at a target are the same ones in
the same order. -/
theorem selective_edges {result : Option (Store × FusionReport)}
    (h : (fuse ladder ensembleMode inputs (some set) store).Course events result) :
    ∃ fused report, result = some (fused, report) ∧
      fused.edges = remainingEdges inputs set store.edges ++ parsedEdges inputs set ++
        unknownEdges inputs set store.edges ∧
      fused.edgesOf .logical = store.edgesOf .logical ++ unknownEdges inputs set store.edges ∧
      outsideEdges set fused.edges = outsideEdges set store.edges := by
  obtain ⟨steps, _, _, rfl⟩ := course_fuse_iff.1 h
  rw [base_some]
  refine ⟨(merge ensembleMode inputs (some set) steps store).1,
    (merge ensembleMode inputs (some set) steps store).2, rfl, merge_edges_selective steps,
    edgesOf_logical_merge_selective steps, ?_⟩
  rw [merge_edges_selective, outsideEdges_selectiveEdges]

end Selective

/-! ## Edges that are stored already -/

namespace StaleEdges

open RepeatedRecords (a b c)

def targets : TargetSet := OrderedSet.ofElements [b]

/-- One physical edge starts at the target, and one elsewhere. -/
def store : Store where
  entries := .empty
  edges := [.physical b ⟨"d.py"⟩ "imports", .logical b a "similar", .physical c a "imports"]

/-- Of the inferred edges one is stored, one is inferred twice, and one starts elsewhere. -/
def inputs : FusionInputs :=
  { RepeatedRecords.inputs with
    logicalEdges := [.logical b a "similar", .logical b c "similar", .logical c b "similar",
      .logical b c "similar"] }

/-- The store after a selective fusion. -/
def fused : Store :=
  (((fuse RepeatedRecords.ladder true inputs (some targets) store).run RepeatedRecords.host
    ()).1.map (·.1)).getD .empty

end StaleEdges

/-- The import that was stored is swapped for the repeated one of the graph, and the edge that was
inferred twice is added twice. -/
theorem selective_edges_stale_edges :
    StaleEdges.fused.edges =
        remainingEdges StaleEdges.inputs StaleEdges.targets StaleEdges.store.edges ++
          parsedEdges StaleEdges.inputs StaleEdges.targets ++
            unknownEdges StaleEdges.inputs StaleEdges.targets StaleEdges.store.edges ∧
      StaleEdges.fused.edges = [.logical RepeatedRecords.b RepeatedRecords.a "similar",
        .physical RepeatedRecords.c RepeatedRecords.a "imports",
        .physical RepeatedRecords.b RepeatedRecords.a "imports",
        .physical RepeatedRecords.b RepeatedRecords.a "imports",
        .logical RepeatedRecords.b RepeatedRecords.c "similar",
        .logical RepeatedRecords.b RepeatedRecords.c "similar"] := by
  obtain ⟨fused, report, hresult, hedges, -, -⟩ :=
    selective_edges (Plan.course_run RepeatedRecords.host
      (fuse RepeatedRecords.ladder true StaleEdges.inputs (some StaleEdges.targets)
        StaleEdges.store) ())
  have hsame : StaleEdges.fused = fused := by
    rw [StaleEdges.fused, hresult]
    rfl
  exact ⟨hsame ▸ hedges, by decide +kernel⟩

end Fusion
end CodeSurvey
