import CodeSurvey.Codec.Graph
import CodeSurvey.Fusion
import CodeSurvey.Rehearsal.World
import CodeSurvey.Service.Report

/-!
# The exact form of results

For inspection, results are given in a form that loses nothing: a single-precision number is written
as the eight hexadecimal digits of its bits, and whatever is not a number as one word.  Sets are
lists in their order.

## Main definitions

* `Exact.number`, `Exact.value`: numbers as bits, alone and inside of values.
* `Exact.entity`, `Exact.store`, `Exact.evaluation`, `Exact.fusion`, `Exact.progress`,
  `Exact.report`: results.
* `Exact.observation`, `Exact.call`: what is kept of a rehearsal.
-/

namespace CodeSurvey
namespace Exact

open Rehearsal (Call Observation Presentation)

/-- The bits of a number, or the word for what is not a number. -/
def number (x : Float32) : Json :=
  .text (if x.isNaN then "nan" else String.ofList (Hexadecimal.digits 8 x.toBits.toNat))

mutual

/-- A value with its decimals as bits. -/
def value : Json → Json
  | .decimal literal => number literal.toFloat32
  | .float x => number x
  | .array items => .array (values items)
  | .object fields => .object (fieldValues fields)
  | other => other

/-- The values of an array with their decimals as bits. -/
def values : List Json → List Json
  | [] => []
  | item :: rest => value item :: values rest

/-- The fields of an object with their decimals as bits. -/
def fieldValues : List (String × Json) → List (String × Json)
  | [] => []
  | (name, item) :: rest => (name, value item) :: fieldValues rest

end

/-! ## Entities -/

/-- An identity. -/
def id (id : EntityId) : Json := .text id.text

/-- A set of identities. -/
def ids (set : TargetSet) : Json := .listOf id set.keys

/-- The targets of a pass. -/
def targets : Option TargetSet → Json := .optional ids

/-- An edge. -/
def edge (edge : Edge) : Json :=
  .array [id edge.source, id edge.target, .text edge.kind.name, .text edge.relation]

/-- A map from texts to texts. -/
def texts (map : OrderedMap String String) : Json :=
  .object (map.entries.map fun entry => (entry.1, .text entry.2))

/-- An entity. -/
def entity (entity : Entity) : Json :=
  .object [
    ("id", id entity.id), ("kind", .text entity.kind.name), ("summary", .text entity.summary),
    ("details", texts entity.details), ("embedding", .listOf number entity.embedding),
    ("complexity", .nat entity.complexity.toNat), ("label", .text entity.label),
    ("attributes", texts entity.attributes), ("score", number entity.score)]

/-- A store. -/
def store (store : Store) : Json :=
  .object [("entities", .listOf entity store.entities), ("edges", .listOf edge store.edges)]

/-! ## Results of phases -/

/-- An evaluation. -/
def evaluation (evaluation : Evaluation) : Json :=
  .object [
    ("missing", ids evaluation.missing), ("low", ids evaluation.low),
    ("retry_targets", ids evaluation.retryTargets), ("aggregate", number evaluation.aggregate),
    ("scored", .nat evaluation.scored), ("decision", .text evaluation.decision.name)]

/-- The report on a fusion. -/
def fusion (report : FusionReport) : Json :=
  .object [
    ("primary", .nat report.primary), ("synthesized", .nat report.synthesized),
    ("failed", .listOf id report.failed), ("physical_edges", .nat report.physicalEdges),
    ("logical_edges", .nat report.logicalEdges), ("dangling_edges", .nat report.danglingEdges),
    ("tier_counts", .object (report.tierCounts.entries.map fun entry => (entry.1, .nat entry.2)))]

/-- A line of the stage log. -/
def entry (entry : StageEntry) : Json :=
  .array [
    .text entry.stage.name, .text entry.status.name, .nat entry.pass.toNat, .text entry.detail]

/-- What a run has produced. -/
def progress (progress : Progress) : Json :=
  .object [
    ("run_id", .text progress.run.id.text), ("status", .text progress.run.status.name),
    ("retry_count", .nat progress.run.retryCount.toNat), ("passes", .nat progress.passes.toNat),
    ("error", .optional .text progress.error),
    ("decision", .optional (fun decision => .text (Decision.name decision)) progress.decision),
    ("evaluation", .optional evaluation progress.evaluation), ("store", store progress.store)]

/-- What a poller sees of a run. -/
def report (report : Report) : Json :=
  .object [
    ("repo", .text report.repo), ("status", .text report.status.name),
    ("phase", .text report.phase.name), ("progress", .nat report.progress),
    ("retry_count", .nat report.retryCount.toNat), ("max_retries", .nat report.maxRetries.toNat),
    ("aggregate", .optional number report.aggregate), ("error", .optional .text report.error),
    ("store", .optional store report.store)]

/-! ## What is kept of a rehearsal -/

/-- What an observer has seen. -/
def observation : Observation → Json
  | .phase phase run =>
      .object [
        ("phase", .text phase.name), ("status", .text run.status.name),
        ("retry_count", .nat run.retryCount.toNat), ("targets", targets run.targets)]
  | .evaluated result => .object [("evaluation", evaluation result)]

/-- What a post-processor has been shown. -/
def presentation (shown : Presentation) : Json :=
  .array [.text shown.processor, .nat shown.size, .optional evaluation shown.evaluation]

/-- A call: the name of its list, and what is noted of it. -/
def call : Call → String × Json
  | .summarize set => ("summarize", targets set)
  | .snippet entity code => ("snippet", .array [id entity, .text code])
  | .parse files => ("parse", .nat files)
  | .embedSnippets snippets =>
      ("embed_snippets", .listOf (fun (snippet : Snippet) =>
        Json.array [id snippet.id, .nat snippet.code.length, .nat snippet.code.utf8ByteSize])
          snippets)
  | .embedText text => ("embed_text", .text text)
  | .available => ("available", .bool true)
  | .chat messages generation =>
      ("chat", .object [
        ("messages", .listOf (fun (message : Judge.Message) =>
          Json.array [.text message.role.name, .text message.content]) messages),
        ("temperature", number generation.temperature),
        ("max_tokens", .optional (fun n => .nat (UInt64.toNat n)) generation.maxTokens),
        ("json_response", .bool generation.jsonResponse)])
  | .materialize repo => ("materialize", .text repo.text)

/-- The names of the lists of calls. -/
def callNames : List String := [
  "summarize", "snippet", "parse", "embed_snippets", "embed_text", "available", "chat",
  "materialize"]

/-- Whether the first of two texts comes before the second. -/
def textBefore : Json → Json → Bool
  | .text a, .text b => decide (a ≤ b)
  | _, _ => true

/-- The calls by name.  Embedded texts are in alphabetical order, because they are in work at the
same time. -/
def calls (calls : List Call) : Json :=
  let entries := calls.map call
  .object (callNames.filterMap fun name =>
    match (entries.filter fun entry => entry.1 == name).map (·.2) with
    | [] => none
    | found =>
        some (name, .array (if name == "embed_text" then found.mergeSort textBefore else found)))

end Exact
end CodeSurvey
