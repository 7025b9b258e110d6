import CodeSurvey.Codec.Graph
import CodeSurvey.Judge.Message
import CodeSurvey.Run.Basic

/-!
# The interchange form of runs

For runs, their phases and stages, evaluations and the conversation with the judge: how they are
written as values, and how they are read back.
-/

namespace CodeSurvey

open Json (Decoder Record)

/-! ## Names -/

/-- Reads a status. -/
def RunStatus.decode : Decoder RunStatus :=
  Decoder.variant
    ([.pending, .running, .completed, .failed].map fun status => (RunStatus.name status, status))

/-- Reads a phase. -/
def Phase.decode : Decoder Phase :=
  Decoder.variant
    ([.pending, .ingesting, .analyzing, .fusing, .evaluating, .retrying, .accepted,
      .postProcessing, .done, .failed].map fun phase => (Phase.name phase, phase))

/-- Reads a stage. -/
def Stage.decode : Decoder Stage :=
  Decoder.variant
    ([.ingest, .summarize, .parse, .embed, .fuse, .evaluate, .postProcess].map fun stage =>
      (Stage.name stage, stage))

/-- Reads the status of a stage. -/
def StageStatus.decode : Decoder StageStatus :=
  Decoder.variant ([.success, .degraded].map fun status => (StageStatus.name status, status))

/-- Reads a decision. -/
def Decision.decode : Decoder Decision :=
  Decoder.variant
    ([.accept, .retryAll, .retrySubset].map fun decision => (Decision.name decision, decision))

/-! ## Runs and evaluations -/

/-- Reads the identity of a run. -/
def RunId.decode : Decoder RunId := fun value => do
  match RunId.ofText? (← Decoder.text value) with
  | some id => return id
  | none => throw (.wrongType "run identity")

/-- The interchange form of a run. -/
def Run.encode (run : Run) : Json :=
  .object [
    ("run_id", .text run.id.text), ("retry_count", .nat run.retryCount.toNat),
    ("max_retries", .nat run.maxRetries.toNat), ("status", .text run.status.name),
    ("target_entity_ids", .optional TargetSet.encode run.targets)]

/-- Reads a run. -/
def Run.decode : Decoder Run := fun value => do
  let record ← Record.read
    ["run_id", "retry_count", "max_retries", "status", "target_entity_ids"] value
  return {
    id := ← record.required "run_id" RunId.decode
    retryCount := ← record.required "retry_count" Decoder.uint32
    maxRetries := ← record.required "max_retries" Decoder.uint32
    status := ← record.required "status" RunStatus.decode
    targets := ← record.optional "target_entity_ids" Decoder.targetSet }

/-- The interchange form of an evaluation. -/
def Evaluation.encode (evaluation : Evaluation) : Json :=
  .object [
    ("missing_ids", TargetSet.encode evaluation.missing),
    ("aggregate_score", .float32 evaluation.aggregate),
    ("low_quality_ids", TargetSet.encode evaluation.low),
    ("decision", .text evaluation.decision.name), ("scored_count", .nat evaluation.scored)]

/-- Reads an evaluation. -/
def Evaluation.decode : Decoder Evaluation := fun value => do
  let record ← Record.read
    ["missing_ids", "aggregate_score", "low_quality_ids", "decision", "scored_count"] value
  return {
    missing := ← record.required "missing_ids" Decoder.targetSet
    aggregate := ← record.required "aggregate_score" Decoder.float32
    low := ← record.required "low_quality_ids" Decoder.targetSet
    decision := ← record.required "decision" Decision.decode
    scored := ← record.required "scored_count" Decoder.count }

/-! ## Conversations -/

namespace Judge

/-- Reads a speaker. -/
def Role.decode : Decoder Role :=
  Decoder.variant ([.system, .user, .assistant].map fun role => (Role.name role, role))

/-- The interchange form of a message. -/
def Message.encode (message : Message) : Json :=
  .object [("role", .text message.role.name), ("content", .text message.content)]

/-- Reads a message. -/
def Message.decode : Decoder Message := fun value => do
  let record ← Record.read ["role", "content"] value
  return {
    role := ← record.required "role" Role.decode
    content := ← record.required "content" Decoder.text }

/-- The interchange form of settings for an answer. -/
def Generation.encode (generation : Generation) : Json :=
  .object [
    ("temperature", .float32 generation.temperature),
    ("max_tokens", .optional (fun n => .nat n.toNat) generation.maxTokens),
    ("json_response", .bool generation.jsonResponse)]

/-- Reads settings for an answer. -/
def Generation.decode : Decoder Generation := fun value => do
  let record ← Record.read ["temperature", "max_tokens", "json_response"] value
  return {
    temperature := ← record.required "temperature" Decoder.float32
    maxTokens := ← record.optional "max_tokens" Decoder.uint64
    jsonResponse := ← record.required "json_response" Decoder.bool }

/-- The interchange form of an answer. -/
def Response.encode (response : Response) : Json :=
  .object [
    ("content", .text response.content),
    ("total_tokens", .optional (fun n => .nat n.toNat) response.totalTokens),
    ("model", .text response.model)]

/-- Reads an answer. -/
def Response.decode : Decoder Response := fun value => do
  let record ← Record.read ["content", "total_tokens", "model"] value
  return {
    content := ← record.required "content" Decoder.text
    totalTokens := ← record.optional "total_tokens" Decoder.uint64
    model := ← record.required "model" Decoder.text }

end Judge

end CodeSurvey
