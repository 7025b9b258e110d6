import CodeSurvey.Proofs.Fusion.Specification

/-!
# Selective fusions after a full one

A selective fusion of the inputs of a full fusion has nothing new to say.  As long as the ladder
comes to the same outcomes again, every entity that it makes is the one that is stored already, and
the edges are the stored ones, with the physical edges of its targets behind all others.

## Main results

* `Fusion.entries_mergeAgain`, `Fusion.edges_mergeAgain`: entities and edges after the second
  fusion.
* `Fusion.incremental_fusion`: both fusions, one after the other.
-/

namespace CodeSurvey
namespace Fusion

/-- Fuses inputs without targets, and then the same inputs for some targets. -/
def fuseTwice (ladder : Ladder) (ensembleMode : Bool) (inputs : FusionInputs) (set : TargetSet)
    (store : Store) : Plan ((Store × FusionReport) × (Store × FusionReport)) := do
  let full ← fuse ladder ensembleMode inputs none store
  let again ← fuse ladder ensembleMode inputs (some set) full.1
  return (full, again)

/-- Whether a selective fusion swaps an edge: it is physical and starts at a target. -/
def isSwapped (set : TargetSet) (edge : Edge) : Bool :=
  edge.kind = .physical && set.contains edge.source

/-- Edges with those that are swapped moved behind all others. -/
def moveToEnd (set : TargetSet) (edges : List Edge) : List Edge :=
  (edges.filter fun edge => !isSwapped set edge) ++ edges.filter (isSwapped set)

theorem moveToEnd_perm (set : TargetSet) (edges : List Edge) :
    (moveToEnd set edges).Perm edges :=
  List.perm_append_comm.trans (List.filter_append_perm (isSwapped set) edges)

/-- The edges that are not swapped are kept, and all others too where nothing has been parsed. -/
theorem keptEdges_some (graph : StructuralGraph) (set : TargetSet) (edges : List Edge) :
    keptEdges graph (some set) edges =
      if graph.isEmpty then edges else edges.filter fun edge => !isSwapped set edge := by
  rw [keptEdges]
  split
  · rfl
  · apply List.filter_congr
    intro edge _
    cases hkind : edge.kind <;> simp [isSwapped, hkind]

/-- Of the edges of a full fusion those are kept that are not swapped. -/
theorem keptEdges_of_full (inputs : FusionInputs) (set : TargetSet) :
    keptEdges inputs.graph (some set) (inputs.graph.physicalEdges ++ inputs.inferredEdges) =
      (inputs.graph.physicalEdges ++ inputs.inferredEdges).filter fun edge =>
        !isSwapped set edge := by
  rw [keptEdges_some]
  split
  · rename_i hempty
    -- Without a report nothing is swapped, but then no physical edge is stored either.
    simp only [StructuralGraph.isEmpty, Bool.and_eq_true, List.isEmpty_iff] at hempty
    rw [StructuralGraph.physicalEdges, hempty.2, List.map_nil, List.nil_append, eq_comm,
      List.filter_eq_self]
    intro edge hedge
    simp [isSwapped, FusionInputs.kind_of_mem_inferredEdges hedge]
  · rfl

/-- The new physical edges are those of a full fusion that are swapped. -/
theorem newPhysicalEdges_of_full (inputs : FusionInputs) (set : TargetSet) :
    newPhysicalEdges inputs.graph (some set) =
      (inputs.graph.physicalEdges ++ inputs.inferredEdges).filter (isSwapped set) := by
  have hlogical : inputs.inferredEdges.filter (isSwapped set) = [] := by
    rw [List.filter_eq_nil_iff]
    intro edge hedge
    simp [isSwapped, FusionInputs.kind_of_mem_inferredEdges hedge]
  rw [List.filter_append, hlogical, List.append_nil, newPhysicalEdges_eq]
  apply List.filter_congr
  intro edge hedge
  simp [isSwapped, StructuralGraph.kind_of_mem_physicalEdges hedge]

section Again

variable {ladder : Ladder} {ensembleMode : Bool} {inputs : FusionInputs} {set : TargetSet}
  {store : Store} {events : List Event} {outcome : StructuralNode → Option LadderOutcome}

/-! ## The merged stores -/

/-- What takes part in a selective fusion takes part in a full one. -/
theorem takesPart_none_of_some {id : EntityId} (h : takesPart (some set) id = true) :
    takesPart none id = true := by
  rw [takesPart, Bool.and_eq_true] at h
  rw [takesPart, h.1, inScope_none, Bool.and_true]

/-- A fusion changes no entity if all those that its inputs tell are stored already. -/
theorem entries_merge_of_told {targets : Option TargetSet}
    (h : ∀ id entity, takesPart targets id = true →
      told ensembleMode inputs outcome id = some entity → store.get? id = some entity) :
    (merge ensembleMode inputs targets (stepsBy outcome (uncoveredNodes inputs targets))
      store).1.entries = store.entries := by
  apply OrderedMap.ext_get?
  intro id
  change (merge ensembleMode inputs targets (stepsBy outcome (uncoveredNodes inputs targets))
    store).1.get? id = store.get? id
  rw [get?_merge]
  split
  · rename_i htakes
    cases htold : told ensembleMode inputs outcome id with
    | none => rfl
    | some entity => exact (h id entity htakes htold).symm
  · rfl

section Merged

variable (ensembleMode inputs set outcome)

/-- The store and the report of the full fusion. -/
def mergeFull : Store × FusionReport :=
  merge ensembleMode inputs none (stepsBy outcome (uncoveredNodes inputs none)) .empty

/-- The store and the report of the selective fusion after the full one. -/
def mergeAgain : Store × FusionReport :=
  merge ensembleMode inputs (some set) (stepsBy outcome (uncoveredNodes inputs (some set)))
    (mergeFull ensembleMode inputs outcome).1

/-- The same inputs tell the same entities again. -/
theorem entries_mergeAgain :
    (mergeAgain ensembleMode inputs set outcome).1.entries =
      (mergeFull ensembleMode inputs outcome).1.entries := by
  apply entries_merge_of_told
  intro id entity htakes htold
  rw [mergeFull, get?_merge, if_pos (takesPart_none_of_some htakes), htold, Option.some_or]

/-- The same inputs tell no new edges, and the physical edges of the targets move to the end. -/
theorem edges_mergeAgain :
    (mergeAgain ensembleMode inputs set outcome).1.edges =
      moveToEnd set (mergeFull ensembleMode inputs outcome).1.edges := by
  have hfull : (mergeFull ensembleMode inputs outcome).1.edges =
      inputs.graph.physicalEdges ++ inputs.inferredEdges := edges_full
  have hknown : inputs.inferredEdges ⊆ (mergeFull ensembleMode inputs outcome).1.edges := by
    rw [hfull]
    exact List.subset_append_right _ _
  rw [mergeAgain, merge_edges, newLogicalEdges_eq_nil hknown, List.append_nil, hfull, moveToEnd,
    keptEdges_of_full, newPhysicalEdges_of_full]

end Merged

/-- Stores with the same entities and the same edges in any order have the same dangling edges. -/
theorem danglingEdges_perm {other : Store} (hentries : other.entries = store.entries)
    (hedges : other.edges.Perm store.edges) : other.danglingEdges.Perm store.danglingEdges := by
  have hdangling : other.isDangling = store.isDangling := by
    funext edge
    rw [Store.isDangling, Store.contains, Store.contains, hentries]
    rfl
  rw [Store.danglingEdges, hdangling]
  exact hedges.filter _

/-! ## The fusions -/

/-- Two fusions never crash, and the outcomes of all their ladders determine what they end with. -/
theorem course_fuseTwice {result : Option ((Store × FusionReport) × (Store × FusionReport))}
    (h : (fuseTwice ladder ensembleMode inputs set store).Course events result) :
    ∃ steps more : List Step, steps.map (·.1) = uncoveredNodes inputs none ∧
      more.map (·.1) = uncoveredNodes inputs (some set) ∧ Tried ladder (steps ++ more) events ∧
      result = some (merge ensembleMode inputs none steps .empty,
        merge ensembleMode inputs (some set) more
          (merge ensembleMode inputs none steps .empty).1) := by
  simp only [fuseTwice, Plan.bind_eq, Plan.course_bind_iff, Plan.pure_eq_done,
    Plan.course_done_iff, course_fuse_iff] at h
  rcases h with ⟨_, calls, _, ⟨steps, hnodes, htried, ⟨⟩⟩, hsecond, rfl⟩ | ⟨⟨_, _, _, ⟨⟩⟩, _⟩
  rcases hsecond with ⟨_, others, _, ⟨more, hmore, hothers, ⟨⟩⟩, ⟨rfl, rfl⟩, rfl⟩ |
    ⟨⟨_, _, _, ⟨⟩⟩, _⟩
  rw [List.append_nil]
  exact ⟨steps, more, hnodes, hmore, htried.append hothers, rfl⟩

/-- Whatever was stored before, two fusions of the same inputs, of which the second one is
selective, end like the first one: with the same entities, with the same edges, of which the
physical ones of the targets have moved to the end, and with as many dangling edges.  Ladders may
fail or panic, but each node must have the same outcome both times. -/
theorem incremental_fusion {result : Option ((Store × FusionReport) × (Store × FusionReport))}
    (h : (fuseTwice ladder ensembleMode inputs set store).Course events result)
    (hsame : Tried ladder
      (stepsBy outcome (uncoveredNodes inputs none ++ uncoveredNodes inputs (some set))) events) :
    ∃ full fullReport again report, result = some ((full, fullReport), (again, report)) ∧
      again.entries = full.entries ∧ again.edges = moveToEnd set full.edges ∧
      again.edges.Perm full.edges ∧
      again.danglingEdges.length = full.danglingEdges.length ∧
      report.danglingEdges = fullReport.danglingEdges := by
  obtain ⟨steps, more, hnodes, hmore, htried, rfl⟩ := course_fuseTwice h
  have hsteps : steps ++ more =
      stepsBy outcome (uncoveredNodes inputs none ++ uncoveredNodes inputs (some set)) := by
    apply htried.unique hsame
    rw [List.map_append, hnodes, hmore, map_fst_stepsBy]
  rw [stepsBy_append] at hsteps
  obtain ⟨rfl, rfl⟩ := List.append_inj hsteps (by
    rw [stepsBy, List.length_map, ← hnodes, List.length_map])
  have hentries := entries_mergeAgain ensembleMode inputs set outcome
  have hedges := edges_mergeAgain ensembleMode inputs set outcome
  have hperm : (mergeAgain ensembleMode inputs set outcome).1.edges.Perm
      (mergeFull ensembleMode inputs outcome).1.edges := by
    rw [hedges]
    exact moveToEnd_perm set _
  have hdangling := (danglingEdges_perm hentries hperm).length_eq
  exact ⟨_, _, _, _, rfl, hentries, hedges, hperm, hdangling, hdangling⟩

end Again

/-! ## Repeated records fused twice -/

/-- A host that keeps no state has every ladder come to the same outcome each time. -/
theorem tried_run (ladder : Ladder) (host : Host Unit) (nodes : List StructuralNode) :
    Tried ladder (stepsBy (fun node => ((ladder.resolve node).run host ()).1) nodes)
      (nodes.flatMap fun node => (ladder.resolve node).events host ()) := by
  induction nodes with
  | nil => exact .nil
  | cons node rest ih =>
      rw [List.flatMap_cons]
      exact .cons (Plan.course_run host (ladder.resolve node) ()) ih

namespace RepeatedRecords

/-- The files without a summary. -/
def targets : TargetSet := OrderedSet.ofElements [b, c]

/-- Both fusions, the full and the selective one. -/
def twice : (Store × FusionReport) × (Store × FusionReport) :=
  ((fuseTwice ladder true inputs targets .empty).run host ()).1.get (by decide +kernel)

end RepeatedRecords

/-- The second fusion synthesizes two entities anew, of which one fails again, and moves the
repeated import behind all other edges. -/
theorem incremental_fusion_repeated_records :
    RepeatedRecords.twice.2.1.entries = RepeatedRecords.twice.1.1.entries ∧
      RepeatedRecords.twice.2.1.edges =
        moveToEnd RepeatedRecords.targets RepeatedRecords.twice.1.1.edges ∧
      RepeatedRecords.twice.2.1.edges ≠ RepeatedRecords.twice.1.1.edges ∧
      RepeatedRecords.twice.2.2.danglingEdges = RepeatedRecords.twice.1.2.danglingEdges ∧
      RepeatedRecords.twice.2.2.failed = [RepeatedRecords.c] := by
  have htried := tried_run RepeatedRecords.ladder RepeatedRecords.host
    (uncoveredNodes RepeatedRecords.inputs none ++
      uncoveredNodes RepeatedRecords.inputs (some RepeatedRecords.targets))
  obtain ⟨full, fullReport, again, report, htwice, hentries, hedges, -, -, hdangling⟩ :=
    incremental_fusion
      (Plan.course_run_get RepeatedRecords.host
        (fuseTwice RepeatedRecords.ladder true RepeatedRecords.inputs RepeatedRecords.targets
          .empty) () (by decide +kernel)) htried
  have hsame : RepeatedRecords.twice = ((full, fullReport), (again, report)) :=
    Option.some.inj htwice
  exact ⟨hsame ▸ hentries, hsame ▸ hedges, by decide +kernel, hsame ▸ hdangling,
    by decide +kernel⟩

end Fusion
end CodeSurvey
