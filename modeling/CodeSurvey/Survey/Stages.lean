import CodeSurvey.Linking.Inference
import CodeSurvey.Survey.Progress
import CodeSurvey.Survey.Setup

/-!
# The analysis stages of a pass

Three stages look at the snapshot concurrently.  A stage whose call fails, takes too long or panics
contributes an empty result and a degraded line in the log, and leaves the other two alone.  From
their results logical edges are inferred.

## Main definitions

* `Stages.settle`: the result of a stage and its line in the log.
* `Stages.analyze`: the results of all three stages.
* `Stages.inferLinks`: the logical edges of a pass.
-/

namespace CodeSurvey
namespace Stages

/-- How many characters of a file are handed to the embedder. -/
def maxSnippetLength : Nat := 2000

/-- The beginnings of the files in scope. -/
def snippets (snapshot : Snapshot) (targets : Option TargetSet) : List Snippet :=
  (snapshot.filesInScope targets).map fun file =>
    ⟨file.id, String.ofList (file.content.toList.take maxSnippetLength)⟩

/-- The failure that a stage has met in place of a value. -/
def failure? {α : Type} (setup : Setup) (stage : Stage) : Outcome Failure α → Except Failure α
  | .ok value => .ok value
  | .failed error => .error error
  | .timedOut => .error (.timeout (stage.name ++ " stage exceeded " ++ setup.timeoutText))
  | .panicked => .error (.capability (stage.name ++ " stage panicked"))

/-- The result of a stage, which is empty if it failed, and its line in the log. -/
def settle {α : Type} (stage : Stage) (pass : UInt32) (empty : α) (detail : α → String) :
    Except Failure α → α × StageEntry
  | .ok value => (value, ⟨stage, .success, pass, detail value⟩)
  | .error error => (empty, ⟨stage, .degraded, pass, error.message⟩)

/-- The results of the analysis stages of a pass. -/
structure Results where
  summaries : List SummaryRecord
  graph : StructuralGraph
  embeddings : List EmbeddingRecord

/-- The result of the summarizing stage. -/
def summarize (setup : Setup) (pass : UInt32) (targets : Option TargetSet)
    (reply : Outcome Failure (List SummaryRecord)) : List SummaryRecord × StageEntry :=
  settle .summarize pass []
    (fun records =>
      records.length.repr ++ " summaries from " ++ setup.collaborators.summarizer)
    ((failure? setup .summarize reply).map (·.filter fun record => inScope targets record.id))

/-- The result of the parsing stage. -/
def parse (setup : Setup) (pass : UInt32) (reply : Outcome Failure StructuralGraph) :
    StructuralGraph × StageEntry :=
  settle .parse pass .empty
    (fun graph => graph.nodes.length.repr ++ " nodes, " ++ graph.edges.length.repr ++ " edges")
    (failure? setup .parse reply)

/-- The result of the embedding stage, which makes no call without snippets. -/
def embed (setup : Setup) (pass : UInt32) (targets : Option TargetSet) (snippets : List Snippet)
    (reply : Outcome Failure (List EmbeddingRecord)) : List EmbeddingRecord × StageEntry :=
  if snippets.isEmpty then ([], ⟨.embed, .success, pass, "no files in scope"⟩)
  else
    settle .embed pass []
      (fun records =>
        records.length.repr ++ " embeddings from " ++ setup.collaborators.embedder)
      ((failure? setup .embed reply).map (·.filter fun record => inScope targets record.id))

/-- The results of all three stages, and their lines in the log. -/
def analyze (setup : Setup) (snapshot : Snapshot) (targets : Option TargetSet) (pass : UInt32) :
    Plan (Results × List StageEntry) := do
  let snippets := snippets snapshot targets
  let replies ← Plan.request (.analyze snapshot targets snippets)
  let (summaries, summarizeEntry) := summarize setup pass targets replies.summaries
  let (graph, parseEntry) := parse setup pass replies.graph
  let (embeddings, embedEntry) := embed setup pass targets snippets replies.embeddings
  return (⟨summaries, graph, embeddings⟩, [summarizeEntry, parseEntry, embedEntry])

/-- The stored entities that a selective pass does not touch. -/
def untouched (targets : TargetSet) (store : Store) : List Entity :=
  store.entities.filter fun entity => !targets.contains entity.id

/-- The logical edges of a pass.  A selective pass compares the fresh vectors with the stored ones
of all entities that are no targets. -/
def inferLinks (setup : Setup) (results : Results) (targets : Option TargetSet) (store : Store) :
    List Edge :=
  let ids := results.summaries.map (·.id) ++ results.graph.nodes.map (·.id)
  let threshold := setup.settings.policy.similarityLinkThreshold
  match targets with
  | none => Linking.infer setup.collaborators.similarity threshold ids results.embeddings
  | some set =>
      let others := untouched set store
      Linking.infer setup.collaborators.similarity threshold (ids ++ others.map (·.id))
        (results.embeddings ++
          (others.filter Entity.hasEmbedding).map fun entity => ⟨entity.id, entity.embedding⟩)

end Stages
end CodeSurvey
