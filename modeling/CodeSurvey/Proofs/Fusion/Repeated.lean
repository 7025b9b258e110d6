import CodeSurvey.Proofs.Fusion.Selective

/-!
# Selective fusions that are repeated

The same inputs may be fused for the same targets again and again, into whatever store there is.  If
every ladder comes to its outcome each time, the first fusion settles the entities and the logical
edges.  The second one may still move the physical edges of the targets behind the logical ones, and
no later one does anything.

## Main results

* `Fusion.selectiveEdges_twice_perm`, `Fusion.selectiveEdges_settled`: the edges after a second and
  after a third selective fusion.
* `Fusion.course_fuseRepeatedly`: any number of fusions never crash, and the outcomes of all their
  ladders determine what they end with.
* `Fusion.repeated_fusion`: the store after any number of fusions.
-/

namespace CodeSurvey
namespace Fusion

/-- Fuses inputs for some targets a number of times, each time into the store that the fusion before
has left. -/
def fuseRepeatedly (ladder : Ladder) (ensembleMode : Bool) (inputs : FusionInputs)
    (set : TargetSet) : Nat → Store → Plan (List (Store × FusionReport))
  | 0, _ => return []
  | count + 1, store => do
      let fused ← fuse ladder ensembleMode inputs (some set) store
      let later ← fuseRepeatedly ladder ensembleMode inputs set count fused.1
      return fused :: later

section Repeated

variable {ladder : Ladder} {ensembleMode : Bool} {inputs : FusionInputs} {set : TargetSet}
  {store : Store} {events : List Event} {steps : List Step} {edges : List Edge} {count : Nat}
  {outcome : StructuralNode → Option LadderOutcome}

/-! ## Edges that remain -/

theorem remainingEdges_append (edges more : List Edge) :
    remainingEdges inputs set (edges ++ more) =
      remainingEdges inputs set edges ++ remainingEdges inputs set more := by
  simp only [remainingEdges]
  split
  · rfl
  · rw [List.filter_append]

/-- What remains is what is not swapped, and it remains again. -/
theorem remainingEdges_idem (edges : List Edge) :
    remainingEdges inputs set (remainingEdges inputs set edges) =
      remainingEdges inputs set edges := by
  simp only [remainingEdges]
  split
  · rfl
  · rw [List.filter_filter]
    simp only [Bool.and_self]

/-- The edges of the graph are swapped the next time. -/
theorem remainingEdges_parsedEdges :
    remainingEdges inputs set (parsedEdges inputs set) = [] := by
  rw [remainingEdges]
  split
  · rename_i hempty
    simp [parsedEdges, StructuralGraph.physicalEdges, hempty.2]
  · rw [List.filter_eq_nil_iff]
    intro edge hedge
    simp [isSwapped, kind_of_mem_parsedEdges hedge, (List.mem_filter.1 hedge).2]

/-- Logical edges remain. -/
theorem remainingEdges_of_logical (h : ∀ edge ∈ edges, edge.kind = .logical) :
    remainingEdges inputs set edges = edges := by
  rw [remainingEdges]
  split
  · rfl
  · rw [List.filter_eq_self]
    intro edge hedge
    simp [isSwapped, h edge hedge]

/-- A logical edge among others remains. -/
theorem mem_remainingEdges_of_logical {edge : Edge} (hedge : edge ∈ edges)
    (hkind : edge.kind = .logical) : edge ∈ remainingEdges inputs set edges := by
  rw [remainingEdges]
  split
  · exact hedge
  · exact List.mem_filter.2 ⟨hedge, by simp [isSwapped, hkind]⟩

/-! ## Edges that are known -/

/-- Whether all that was inferred about the targets is among some edges. -/
def Knows (inputs : FusionInputs) (set : TargetSet) (edges : List Edge) : Prop :=
  ∀ edge ∈ inputs.inferredEdges, set.contains edge.source = true → edge ∈ edges

/-- Where everything is known nothing unknown is inferred. -/
theorem Knows.unknownEdges_eq_nil (h : Knows inputs set edges) :
    unknownEdges inputs set edges = [] := by
  rw [unknownEdges, List.filter_eq_nil_iff]
  intro edge hedge
  obtain ⟨hinferred, hsource⟩ := List.mem_filter.1 hedge
  have hkind := FusionInputs.kind_of_mem_inferredEdges hinferred
  simp [h edge hinferred hsource, hkind]

/-- After a selective fusion all that was inferred about its targets is known. -/
theorem knows_selectiveEdges (edges : List Edge) :
    Knows inputs set (selectiveEdges inputs set edges) := by
  intro edge hinferred hsource
  have hkind := FusionInputs.kind_of_mem_inferredEdges hinferred
  rw [selectiveEdges, List.append_assoc, List.mem_append, List.mem_append]
  by_cases hknown : edge ∈ edges
  · exact .inl (mem_remainingEdges_of_logical hknown hkind)
  · have hunknown : edge ∈ unknownEdges inputs set edges := by
      rw [unknownEdges, List.mem_filter, List.mem_filter]
      exact ⟨⟨hinferred, hsource⟩, by simp [hknown]⟩
    exact .inr (.inr hunknown)

/-- Where nothing is unknown only the physical edges of the targets are swapped. -/
theorem Knows.selectiveEdges_eq (h : Knows inputs set edges) :
    selectiveEdges inputs set edges =
      remainingEdges inputs set edges ++ parsedEdges inputs set := by
  rw [selectiveEdges, h.unknownEdges_eq_nil, List.append_nil]

/-- After a second fusion there are the same edges as after the first one, in another order. -/
theorem selectiveEdges_twice_perm (edges : List Edge) :
    (selectiveEdges inputs set (selectiveEdges inputs set edges)).Perm
      (selectiveEdges inputs set edges) := by
  have hunknown : remainingEdges inputs set (unknownEdges inputs set edges) =
      unknownEdges inputs set edges :=
    remainingEdges_of_logical fun _ hedge => kind_of_mem_unknownEdges hedge
  have hremaining : remainingEdges inputs set (selectiveEdges inputs set edges) =
      remainingEdges inputs set edges ++ unknownEdges inputs set edges := by
    rw [selectiveEdges, remainingEdges_append, remainingEdges_append, remainingEdges_idem,
      remainingEdges_parsedEdges, hunknown, List.append_nil]
  rw [(knows_selectiveEdges edges).selectiveEdges_eq, hremaining, selectiveEdges,
    List.append_assoc, List.append_assoc]
  exact List.perm_append_comm.append_left _

/-- A third fusion does nothing to the edges. -/
theorem selectiveEdges_settled (edges : List Edge) :
    selectiveEdges inputs set (selectiveEdges inputs set (selectiveEdges inputs set edges)) =
      selectiveEdges inputs set (selectiveEdges inputs set edges) := by
  rw [(knows_selectiveEdges _).selectiveEdges_eq, (knows_selectiveEdges edges).selectiveEdges_eq,
    remainingEdges_append, remainingEdges_idem, remainingEdges_parsedEdges, List.append_nil]

/-! ## Stores that are fused again -/

section Merged

variable (ensembleMode inputs set outcome)

/-- The store and the report of a selective fusion, by the outcomes of its ladders. -/
def mergeBy (store : Store) : Store × FusionReport :=
  merge ensembleMode inputs (some set) (stepsBy outcome (uncoveredNodes inputs (some set))) store

/-- A selective fusion does the same to the edges, whatever its ladders come to. -/
theorem edges_mergeBy (store : Store) :
    (mergeBy ensembleMode inputs set outcome store).1.edges =
      selectiveEdges inputs set store.edges :=
  merge_edges_selective _

/-- The report counts the unknown edges as the logical ones. -/
theorem logicalEdges_mergeBy (store : Store) :
    (mergeBy ensembleMode inputs set outcome store).2.logicalEdges =
      (unknownEdges inputs set store.edges).length :=
  congrArg List.length newLogicalEdges_eq_unknownEdges

/-- The same inputs tell the same entities again. -/
theorem entries_mergeBy_twice (store : Store) :
    (mergeBy ensembleMode inputs set outcome
      (mergeBy ensembleMode inputs set outcome store).1).1.entries =
        (mergeBy ensembleMode inputs set outcome store).1.entries := by
  apply entries_merge_of_told
  intro id entity htakes htold
  rw [mergeBy, get?_merge, if_pos htakes, htold, Option.some_or]

/-- All that was inferred is known the second time. -/
theorem logicalEdges_mergeBy_twice (store : Store) :
    (mergeBy ensembleMode inputs set outcome
      (mergeBy ensembleMode inputs set outcome store).1).2.logicalEdges = 0 := by
  rw [logicalEdges_mergeBy, edges_mergeBy, (knows_selectiveEdges _).unknownEdges_eq_nil,
    List.length_nil]

/-- A second fusion with the same inputs only puts the edges in another order. -/
theorem edges_mergeBy_twice_perm (store : Store) :
    (mergeBy ensembleMode inputs set outcome
      (mergeBy ensembleMode inputs set outcome store).1).1.edges.Perm
        (mergeBy ensembleMode inputs set outcome store).1.edges := by
  rw [edges_mergeBy, edges_mergeBy]
  exact selectiveEdges_twice_perm _

/-- A second fusion with the same inputs leaves the logical edges alone. -/
theorem edgesOf_logical_mergeBy_twice (store : Store) :
    (mergeBy ensembleMode inputs set outcome
      (mergeBy ensembleMode inputs set outcome store).1).1.edgesOf .logical =
        (mergeBy ensembleMode inputs set outcome store).1.edgesOf .logical := by
  refine (edgesOf_logical_merge_selective _).trans ?_
  rw [edges_mergeBy, (knows_selectiveEdges _).unknownEdges_eq_nil, List.append_nil]

/-- The third time nothing changes. -/
theorem mergeBy_settled (store : Store) :
    (mergeBy ensembleMode inputs set outcome (mergeBy ensembleMode inputs set outcome
      (mergeBy ensembleMode inputs set outcome store).1).1).1 =
        (mergeBy ensembleMode inputs set outcome
          (mergeBy ensembleMode inputs set outcome store).1).1 := by
  have hentries := entries_mergeBy_twice ensembleMode inputs set outcome
    (mergeBy ensembleMode inputs set outcome store).1
  apply Store.ext_get?
  · intro id
    rw [Store.get?, Store.get?, hentries]
  · rw [edges_mergeBy, edges_mergeBy, edges_mergeBy, selectiveEdges_settled]

end Merged

/-! ## Courses of repeated fusions -/

/-- The stores and the reports of repeated fusions, by the steps of each of them. -/
def mergeRepeatedly (ensembleMode : Bool) (inputs : FusionInputs) (set : TargetSet) :
    List (List Step) → Store → List (Store × FusionReport)
  | [], _ => []
  | steps :: rest, store =>
      merge ensembleMode inputs (some set) steps store ::
        mergeRepeatedly ensembleMode inputs set rest
          (merge ensembleMode inputs (some set) steps store).1

theorem length_mergeRepeatedly (runs : List (List Step)) (store : Store) :
    (mergeRepeatedly ensembleMode inputs set runs store).length = runs.length := by
  induction runs generalizing store with
  | nil => rfl
  | cons steps rest ih => exact congrArg (· + 1) (ih _)

/-- A store that a fusion leaves as it is stays so. -/
theorem eq_of_mem_mergeRepeatedly
    (hsettled : (merge ensembleMode inputs (some set) steps store).1 = store) :
    ∀ fused ∈ mergeRepeatedly ensembleMode inputs set (List.replicate count steps) store,
      fused = merge ensembleMode inputs (some set) steps store := by
  induction count with
  | zero => simp [mergeRepeatedly]
  | succ count ih =>
      rw [List.replicate_succ, mergeRepeatedly, hsettled]
      exact List.forall_mem_cons.2 ⟨rfl, ih⟩

/-- All fusions after the first one leave the same store. -/
theorem later_stores (ensembleMode : Bool) (inputs : FusionInputs) (set : TargetSet)
    (outcome : StructuralNode → Option LadderOutcome) (count : Nat) (store : Store) :
    ∀ fused ∈ mergeRepeatedly ensembleMode inputs set
        (List.replicate count (stepsBy outcome (uncoveredNodes inputs (some set))))
        (mergeBy ensembleMode inputs set outcome store).1,
      fused.1 = (mergeBy ensembleMode inputs set outcome
        (mergeBy ensembleMode inputs set outcome store).1).1 ∧ fused.2.logicalEdges = 0 := by
  have hsettled := mergeBy_settled ensembleMode inputs set outcome store
  cases count with
  | zero => simp [mergeRepeatedly]
  | succ count =>
      rw [List.replicate_succ, mergeRepeatedly, List.forall_mem_cons]
      refine ⟨⟨rfl, logicalEdges_mergeBy_twice ..⟩, ?_⟩
      intro fused hfused
      rw [eq_of_mem_mergeRepeatedly hsettled fused hfused]
      exact ⟨hsettled, logicalEdges_mergeBy_twice ..⟩

/-- Any number of fusions never crash, and the outcomes of all their ladders determine what they end
with. -/
theorem course_fuseRepeatedly {result : Option (List (Store × FusionReport))}
    (h : (fuseRepeatedly ladder ensembleMode inputs set count store).Course events result) :
    ∃ runs : List (List Step), runs.length = count ∧
      (∀ steps ∈ runs, steps.map (·.1) = uncoveredNodes inputs (some set)) ∧
      Tried ladder runs.flatten events ∧
      result = some (mergeRepeatedly ensembleMode inputs set runs store) := by
  induction count generalizing store events result with
  | zero =>
      simp only [fuseRepeatedly, Plan.pure_eq_done, Plan.course_done_iff] at h
      obtain ⟨rfl, rfl⟩ := h
      exact ⟨[], rfl, by simp, .nil, rfl⟩
  | succ count ih =>
      simp only [fuseRepeatedly, Plan.bind_eq, Plan.course_bind_iff, Plan.pure_eq_done,
        Plan.course_done_iff, course_fuse_iff] at h
      rcases h with ⟨_, calls, _, ⟨steps, hnodes, htried, ⟨⟩⟩, hlater, rfl⟩ | ⟨⟨_, _, _, ⟨⟩⟩, _⟩
      rcases hlater with ⟨later, others, _, hlater, ⟨rfl, rfl⟩, rfl⟩ | ⟨hcrash, _⟩
      · obtain ⟨runs, hlength, hruns, hothers, hresult⟩ := ih hlater
        refine ⟨steps :: runs, congrArg (· + 1) hlength, List.forall_mem_cons.2 ⟨hnodes, hruns⟩,
          ?_, ?_⟩
        · rw [List.append_nil, List.flatten_cons]
          exact htried.append hothers
        · rw [Option.some.inj hresult]
          rfl
      · obtain ⟨_, _, _, _, ⟨⟩⟩ := ih hcrash

/-- Steps with the outcomes of a function are told by their nodes. -/
theorem eq_stepsBy (h : ∀ step ∈ steps, step.2 = outcome step.1) :
    steps = stepsBy outcome (steps.map (·.1)) := by
  rw [stepsBy, List.map_map]
  refine (List.map_id steps).symm.trans (List.map_congr_left ?_)
  exact fun step hstep => Prod.ext rfl (h step hstep)

/-- If every node has the same outcome each time, all fusions take the same steps. -/
theorem Tried.eq_replicate {runs : List (List Step)} {nodes : List StructuralNode}
    (h : Tried ladder runs.flatten events) (hlength : runs.length = count)
    (hnodes : ∀ steps ∈ runs, steps.map (·.1) = nodes)
    (hsame : Tried ladder (stepsBy outcome (List.replicate count nodes).flatten) events) :
    runs = List.replicate count (stepsBy outcome nodes) := by
  have hruns : runs.map (fun steps => steps.map (·.1)) = List.replicate count nodes := by
    rw [List.eq_replicate_iff, List.length_map]
    exact ⟨hlength, List.forall_mem_map.2 hnodes⟩
  have hflatten : runs.flatten = stepsBy outcome (List.replicate count nodes).flatten := by
    apply h.unique hsame
    rw [map_fst_stepsBy, List.map_flatten, hruns]
  rw [List.eq_replicate_iff]
  refine ⟨hlength, fun steps hsteps => ?_⟩
  rw [← hnodes steps hsteps]
  apply eq_stepsBy
  intro step hstep
  have hmem : step ∈ runs.flatten := List.mem_flatten.2 ⟨steps, hsteps, hstep⟩
  rw [hflatten] at hmem
  obtain ⟨node, _, rfl⟩ := List.mem_map.1 hmem
  rfl

/-- Whatever is stored, and however often the same inputs are fused for the same targets: all
fusions after the first one leave the same store.  It has the entities and the logical edges of the
store that the first one left, and the same edges in some order, and no logical edge is added any
more.  Ladders may fail or panic, but each node must have the same outcome each time. -/
theorem repeated_fusion {result : Option (List (Store × FusionReport))}
    (h : (fuseRepeatedly ladder ensembleMode inputs set (count + 1) store).Course events result)
    (hsame : Tried ladder (stepsBy outcome
      (List.replicate (count + 1) (uncoveredNodes inputs (some set))).flatten) events) :
    ∃ first report later again, result = some ((first, report) :: later) ∧
      later.length = count ∧ (∀ fused ∈ later, fused.1 = again ∧ fused.2.logicalEdges = 0) ∧
      again.entries = first.entries ∧ again.edges.Perm first.edges ∧
      again.edgesOf .logical = first.edgesOf .logical := by
  obtain ⟨runs, hlength, hnodes, htried, rfl⟩ := course_fuseRepeatedly h
  obtain rfl := htried.eq_replicate hlength hnodes hsame
  refine ⟨_, _, _, _, rfl, ?_, later_stores ensembleMode inputs set outcome count store,
    entries_mergeBy_twice .., edges_mergeBy_twice_perm .., edgesOf_logical_mergeBy_twice ..⟩
  rw [length_mergeRepeatedly, List.length_replicate]

end Repeated

/-! ## Stale edges fused repeatedly -/

namespace StaleEdges

/-- Three fusions for the two files without a summary. -/
def thrice : List (Store × FusionReport) :=
  ((fuseRepeatedly RepeatedRecords.ladder true inputs RepeatedRecords.targets 3 store).run
    RepeatedRecords.host ()).1.get (by decide +kernel)

end StaleEdges

/-- The second fusion moves the repeated import behind the three edges that the first one has
inferred, and the third one does nothing.  The ladder of one file panics each time. -/
theorem repeated_fusion_stale_edges :
    (∃ first report later again, StaleEdges.thrice = (first, report) :: later ∧
      later.length = 2 ∧ (∀ fused ∈ later, fused.1 = again ∧ fused.2.logicalEdges = 0) ∧
      again.entries = first.entries ∧ again.edges.Perm first.edges) ∧
      StaleEdges.thrice.map (·.2.logicalEdges) = [3, 0, 0] ∧
      StaleEdges.thrice.map (·.2.failed) = List.replicate 3 [RepeatedRecords.c] ∧
      StaleEdges.thrice.map (fun fused => fused.1.edges.map (·.kind)) =
        [[.logical, .physical, .physical, .logical, .logical, .logical],
          [.logical, .logical, .logical, .logical, .physical, .physical],
          [.logical, .logical, .logical, .logical, .physical, .physical]] := by
  have htried := tried_run RepeatedRecords.ladder RepeatedRecords.host
    (List.replicate 3
      (uncoveredNodes StaleEdges.inputs (some RepeatedRecords.targets))).flatten
  obtain ⟨first, report, later, again, hthrice, hlength, hlater, hentries, hedges, -⟩ :=
    repeated_fusion
      (Plan.course_run_get RepeatedRecords.host
        (fuseRepeatedly RepeatedRecords.ladder true StaleEdges.inputs RepeatedRecords.targets 3
          StaleEdges.store) () (by decide +kernel)) htried
  have hsame : StaleEdges.thrice = (first, report) :: later := Option.some.inj hthrice
  exact ⟨⟨first, report, later, again, hsame, hlength, hlater, hentries, hedges⟩,
    by decide +kernel, by decide +kernel, by decide +kernel⟩

end Fusion
end CodeSurvey
