import CodeSurvey.Proofs.Linking.Distinct
import CodeSurvey.Proofs.Survey.StableEdges

/-!
# Logical edges without duplicates

A fusion does not look for duplicates among the edges that it is given, and a selective pass infers
many edges that are stored already.  Still no logical edge is ever stored twice: no edge is inferred
twice from the same information, a full pass forgets all earlier edges, and a selective pass, which
keeps them all, adds only edges that are not among them.

## Main results

* `Survey.nodup_merged`: the step from one store to the next.
* `Survey.Reaches.nodup_links`: the stores between passes.
* `Survey.distinct_links`: all stores of a survey.
-/

namespace CodeSurvey
namespace Survey

section Distinct

variable {setup : Setup} {snapshot : Snapshot} {run : Run} {rounds : List Round}
  {progress : Progress} {events : List Event}

/-- If the stored logical edges are distinct, the fused ones are. -/
theorem nodup_merged (h : (progress.store.edgesOf .logical).Nodup) (replies : AnalysisReplies)
    (steps : List Fusion.Step) :
    ((merged setup snapshot progress replies steps).1.edgesOf .logical).Nodup := by
  refine Fusion.nodup_edgesOf_logical ?_ h
  rw [FusionInputs.inferredEdges_eq fun edge => kind_of_mem_logicalEdges, logicalEdges_eq]
  exact Linking.infer_nodup ..

/-- The fused logical edges are those inferred in scope and, on a selective pass, the stored ones. -/
theorem mem_edgesOf_logical_merged_iff (replies : AnalysisReplies) (steps : List Fusion.Step)
    (edge : Edge) :
    edge ∈ (merged setup snapshot progress replies steps).1.edgesOf .logical ↔
      (inScope progress.run.targets edge.source = true ∧
        edge ∈ (inputs setup snapshot progress replies).logicalEdges) ∨
      (progress.run.targets ≠ none ∧ edge ∈ progress.store.edgesOf .logical) := by
  rw [merged, Fusion.mem_edgesOf_logical_merge_iff steps fun edge => kind_of_mem_logicalEdges,
    Store.mem_edgesOf_iff, Fusion.mem_base_edges_iff, and_assoc, ← Store.mem_edgesOf_iff]

/-- A pass keeps the logical edges distinct, wherever it ends. -/
theorem nodup_reached (hkeyed : progress.store.Keyed)
    (h : (progress.store.edgesOf .logical).Nodup) {ending : PassEnd}
    (hpass : (pass setup snapshot progress).Course events (some ending)) :
    (ending.reached.store.edgesOf .logical).Nodup := by
  cases storeAfter hkeyed hpass with
  | unfused hunfused hstore =>
      rw [hstore]
      exact h
  | @fused replies steps _ hanswered hsteps halike =>
      rw [Store.edgesOf, halike.edges]
      exact nodup_merged h replies steps

theorem Reaches.nodup_links (h : Reaches setup snapshot run rounds progress) :
    (progress.store.edgesOf .logical).Nodup := by
  induction h with
  | start entries => exact List.nodup_nil
  | again earlier round ih => exact nodup_reached earlier.keyed ih round

/-- Finishing leaves the store alone. -/
theorem finish_store {final : Progress}
    (h : (finish setup progress).Course events (some final)) : final.store = progress.store := by
  cases finishCourse h with
  | stopped => rfl
  | completed hduring => rfl

theorem Closes.nodup_links {final : Progress}
    (h : Closes setup snapshot progress events (some final)) (hkeyed : progress.store.Keyed)
    (hnodup : (progress.store.edgesOf .logical).Nodup) :
    (final.store.edgesOf .logical).Nodup := by
  cases h with
  | abandoned last => exact nodup_reached hkeyed hnodup last
  | accepted last finished =>
      rw [finish_store finished]
      exact nodup_reached hkeyed hnodup last

/-- No logical edge occurs twice in a store of a survey, whatever the collaborators answer and
however full and selective passes follow each other: neither right after the fusion of a pass, which
keeps the stored logical edges if it is selective and adds those inferred in scope, nor at the end
of the pass, nor when the survey is closed. -/
theorem distinct_links (h : Reaches setup snapshot run rounds progress) :
    (∀ replies calls fused report,
      (setup.fuse (inputs setup snapshot progress replies) progress.run.targets
        progress.store).Course calls (some (fused, report)) →
      (fused.edgesOf .logical).Nodup ∧
        ∀ edge, edge ∈ fused.edgesOf .logical ↔
          (inScope progress.run.targets edge.source = true ∧
            edge ∈ (inputs setup snapshot progress replies).logicalEdges) ∨
          (progress.run.targets ≠ none ∧ edge ∈ progress.store.edgesOf .logical)) ∧
    (∀ events ending, (pass setup snapshot progress).Course events (some ending) →
      (ending.reached.store.edgesOf .logical).Nodup) ∧
    (∀ events final, Closes setup snapshot progress events (some final) →
      (final.store.edgesOf .logical).Nodup) := by
  refine ⟨?_, ?_, ?_⟩
  · intro replies calls fused report hfuse
    obtain ⟨steps, -, hmerged⟩ := Fusion.course_fuse hfuse
    have hfused : fused = (merged setup snapshot progress replies steps).1 :=
      congrArg Prod.fst (Option.some.inj hmerged)
    rw [hfused]
    exact ⟨nodup_merged h.nodup_links replies steps, mem_edgesOf_logical_merged_iff replies steps⟩
  · exact fun events ending hpass => nodup_reached h.keyed h.nodup_links hpass
  · exact fun events final hcloses => hcloses.nodup_links h.keyed h.nodup_links

end Distinct

/-! ## Two files that are linked again -/

namespace TwoFiles

/-- The replies about the two files that import each other, with every vector reported twice. -/
def repeatedReplies (snippets : List Snippet) (analyses : Nat) : AnalysisReplies where
  summaries := (replies analyses).summaries
  graph := .ok imports
  embeddings := .ok ((snippets ++ snippets).map fun snippet => ⟨snippet.id, sameVector snippet.id⟩)

def repeatingHost : Host Nat where
  cancelled := host.cancelled
  answer
    | .analyze _ _ snippets, analyses => (repeatedReplies snippets analyses, analyses + 1)
    | request, analyses => host.answer request analyses

/-- The progress after the full pass, which links the files. -/
def linked : Progress :=
  (((pass setup snapshot (.start run)).run repeatingHost 0).1.bind PassEnd.next?).get
    (by decide +kernel)

theorem reaches_linked :
    Reaches setup snapshot run
      [⟨.start run, (pass setup snapshot (.start run)).events repeatingHost 0⟩] linked :=
  (Reaches.start []).again (course_again_of_run (Option.some_get _).symm)

/-- The end of the selective pass, which infers the same link. -/
def relinked : PassEnd :=
  ((pass setup snapshot linked).run repeatingHost 1).1.get (by decide +kernel)

end TwoFiles

/-- The selective pass for the second file infers a link that is stored, and it is not stored
again. -/
theorem distinct_links_two_files :
    TwoFiles.linked.run.targets = some (OrderedSet.ofElements [TwoFiles.b]) ∧
      similarEdge TwoFiles.a TwoFiles.b ∈ TwoFiles.linked.store.edges ∧
      similarEdge TwoFiles.a TwoFiles.b ∈
        (inputs TwoFiles.setup TwoFiles.snapshot TwoFiles.linked
          (TwoFiles.repeatedReplies
            (Stages.snippets TwoFiles.snapshot TwoFiles.linked.run.targets) 1)).logicalEdges ∧
      (TwoFiles.relinked.reached.store.edgesOf .logical).Nodup := by
  obtain ⟨-, hpass, -⟩ := distinct_links TwoFiles.reaches_linked
  exact ⟨by decide +kernel, by decide +kernel, by decide +kernel,
    hpass _ _ (Plan.course_run_get TwoFiles.repeatingHost _ _ _)⟩

end Survey
end CodeSurvey
