import CodeSurvey.Analysis
import CodeSurvey.Json.Record
import CodeSurvey.Snapshot
import CodeSurvey.Store

/-!
# The interchange form of the surveyed graph

For entities, edges, stores and what the analysis stages report: how they are written as values,
and how they are read back.
-/

namespace CodeSurvey

open Json (Decoder Record)

/-! ## Kinds -/

/-- The interchange form of a kind of entity is its name. -/
def EntityKind.encode (kind : EntityKind) : Json := .text kind.name

/-- Reads a kind of entity. -/
def EntityKind.decode : Decoder EntityKind :=
  Decoder.variant
    ([.file, .classType, .function].map fun kind => (EntityKind.name kind, kind))

/-- The interchange form of a kind of edge is its name. -/
def EdgeKind.encode (kind : EdgeKind) : Json := .text kind.name

/-- Reads a kind of edge. -/
def EdgeKind.decode : Decoder EdgeKind :=
  Decoder.variant ([.physical, .logical].map fun kind => (EdgeKind.name kind, kind))

/-- The interchange form of an identity is its text. -/
def EntityId.encode (id : EntityId) : Json := .text id.text

/-- The interchange form of a set of identities is the array of its members in order. -/
def TargetSet.encode (set : TargetSet) : Json := .listOf EntityId.encode set.keys

/-- The interchange form of a vector. -/
def encodeVector (vector : Vector32) : Json := .listOf .float32 vector

/-- The interchange form of a map from texts to texts. -/
def encodeTextMap (map : OrderedMap String String) : Json :=
  .object (map.entries.map fun (key, value) => (key, .text value))

/-! ## Edges and entities -/

/-- The interchange form of an edge. -/
def Edge.encode (edge : Edge) : Json :=
  .object [
    ("source", edge.source.encode), ("target", edge.target.encode), ("kind", edge.kind.encode),
    ("relation", .text edge.relation)]

/-- Reads an edge. -/
def Edge.decode : Decoder Edge := fun value => do
  let record ← Record.read ["source", "target", "kind", "relation"] value
  return {
    source := ← record.required "source" Decoder.entityId
    target := ← record.required "target" Decoder.entityId
    kind := ← record.required "kind" EdgeKind.decode
    relation := ← record.required "relation" Decoder.text }

/-- What is known about the structure of an entity. -/
structure StructuralAttributes where
  complexity : UInt32
  label : String
  attributes : OrderedMap String String
  deriving DecidableEq

/-- The interchange form of structural attributes. -/
def StructuralAttributes.encode (structural : StructuralAttributes) : Json :=
  .object [
    ("complexity", .nat structural.complexity.toNat), ("label", .text structural.label),
    ("attributes", encodeTextMap structural.attributes)]

/-- Reads structural attributes. -/
def StructuralAttributes.decode : Decoder StructuralAttributes := fun value => do
  let record ← Record.read ["complexity", "label", "attributes"] value
  return {
    complexity := ← record.required "complexity" Decoder.uint32
    label := ← record.required "label" Decoder.text
    attributes := ← record.defaulted "attributes" Decoder.textMap .empty }

/-- The structural attributes of an entity. -/
def Entity.structural (entity : Entity) : StructuralAttributes :=
  ⟨entity.complexity, entity.label, entity.attributes⟩

/-- The interchange form of an entity. -/
def Entity.encode (entity : Entity) : Json :=
  .object [
    ("id", entity.id.encode), ("kind", entity.kind.encode), ("summary_text", .text entity.summary),
    ("summary_details", encodeTextMap entity.details),
    ("embedding", encodeVector entity.embedding), ("structural", entity.structural.encode),
    ("quality_score", .float32 entity.score)]

/-- Reads an entity. -/
def Entity.decode : Decoder Entity := fun value => do
  let record ← Record.read
    ["id", "kind", "summary_text", "summary_details", "embedding", "structural", "quality_score"]
    value
  let structural ← record.required "structural" StructuralAttributes.decode
  return {
    id := ← record.required "id" Decoder.entityId
    kind := ← record.required "kind" EntityKind.decode
    summary := ← record.required "summary_text" Decoder.text
    details := ← record.defaulted "summary_details" Decoder.textMap .empty
    embedding := ← record.defaulted "embedding" Decoder.vector []
    complexity := structural.complexity
    label := structural.label
    attributes := structural.attributes
    score := ← record.required "quality_score" Decoder.float32 }

/-- The interchange form of a store.  Entities are written under their keys. -/
def Store.encode (store : Store) : Json :=
  .object [
    ("entities", .object (store.entries.entries.map fun (id, entity) => (id.text, entity.encode))),
    ("edges", .listOf Edge.encode store.edges)]

/-- Reads a store.  An entity keeps the key under which it is written. -/
def Store.decode : Decoder Store := fun value => do
  let record ← Record.read ["entities", "edges"] value
  let entities ← record.required "entities" (Decoder.entries Entity.decode)
  return {
    entries := OrderedMap.ofList (entities.entries.map fun (key, entity) => (⟨key⟩, entity))
    edges := ← record.required "edges" (Decoder.listOf Edge.decode) }

/-! ## Reports of the analysis stages -/

/-- The interchange form of a view. -/
def ExpertView.encode (view : ExpertView) : Json :=
  .object [("perspective", .text view.perspective), ("text", .text view.text)]

/-- Reads a view. -/
def ExpertView.decode : Decoder ExpertView := fun value => do
  let record ← Record.read ["perspective", "text"] value
  return {
    perspective := ← record.required "perspective" Decoder.text
    text := ← record.required "text" Decoder.text }

/-- The interchange form of a summary. -/
def SummaryRecord.encode (summary : SummaryRecord) : Json :=
  .object [
    ("id", summary.id.encode), ("text", .text summary.text),
    ("confidence", .float32 summary.confidence), ("kind", summary.kind.encode),
    ("expert_views", .listOf ExpertView.encode summary.views)]

/-- Reads a summary. -/
def SummaryRecord.decode : Decoder SummaryRecord := fun value => do
  let record ← Record.read ["id", "text", "confidence", "kind", "expert_views"] value
  return {
    id := ← record.required "id" Decoder.entityId
    text := ← record.required "text" Decoder.text
    confidence := ← record.required "confidence" Decoder.float32
    kind := ← record.defaulted "kind" EntityKind.decode .file
    views := ← record.defaulted "expert_views" (Decoder.listOf ExpertView.decode) [] }

/-- The interchange form of a node. -/
def StructuralNode.encode (node : StructuralNode) : Json :=
  .object [
    ("id", node.id.encode), ("kind", node.kind.encode), ("label", .text node.label),
    ("docstring", .optional .text node.docstring), ("args", .listOf .text node.args),
    ("signature", .optional .text node.signature), ("code", .optional .text node.code),
    ("complexity", .nat node.complexity.toNat)]

/-- Reads a node. -/
def StructuralNode.decode : Decoder StructuralNode := fun value => do
  let record ← Record.read
    ["id", "kind", "label", "docstring", "args", "signature", "code", "complexity"] value
  return {
    id := ← record.required "id" Decoder.entityId
    kind := ← record.required "kind" EntityKind.decode
    label := ← record.required "label" Decoder.text
    docstring := ← record.defaulted "docstring" (Decoder.option Decoder.text) none
    args := ← record.defaulted "args" (Decoder.listOf Decoder.text) []
    signature := ← record.defaulted "signature" (Decoder.option Decoder.text) none
    code := ← record.defaulted "code" (Decoder.option Decoder.text) none
    complexity := ← record.defaulted "complexity" Decoder.uint32 0 }

/-- The interchange form of an edge that the parser reports. -/
def StructuralEdge.encode (edge : StructuralEdge) : Json :=
  .object [
    ("source", edge.source.encode), ("target", edge.target.encode),
    ("relation", .text edge.relation)]

/-- Reads an edge that the parser reports. -/
def StructuralEdge.decode : Decoder StructuralEdge := fun value => do
  let record ← Record.read ["source", "target", "relation"] value
  return {
    source := ← record.required "source" Decoder.entityId
    target := ← record.required "target" Decoder.entityId
    relation := ← record.required "relation" Decoder.text }

/-- The interchange form of a graph. -/
def StructuralGraph.encode (graph : StructuralGraph) : Json :=
  .object [
    ("nodes", .listOf StructuralNode.encode graph.nodes),
    ("edges", .listOf StructuralEdge.encode graph.edges)]

/-- Reads a graph. -/
def StructuralGraph.decode : Decoder StructuralGraph := fun value => do
  let record ← Record.read ["nodes", "edges"] value
  return {
    nodes := ← record.required "nodes" (Decoder.listOf StructuralNode.decode)
    edges := ← record.required "edges" (Decoder.listOf StructuralEdge.decode) }

/-- The interchange form of an embedding. -/
def EmbeddingRecord.encode (record : EmbeddingRecord) : Json :=
  .object [("id", record.id.encode), ("vector", encodeVector record.vector)]

/-- Reads an embedding. -/
def EmbeddingRecord.decode : Decoder EmbeddingRecord := fun value => do
  let record ← Record.read ["id", "vector"] value
  return {
    id := ← record.required "id" Decoder.entityId
    vector := ← record.required "vector" Decoder.vector }

/-! ## Repositories -/

/-- The interchange form of a snippet. -/
def Snippet.encode (snippet : Snippet) : Json :=
  .object [("id", snippet.id.encode), ("code", .text snippet.code)]

/-- Reads a snippet. -/
def Snippet.decode : Decoder Snippet := fun value => do
  let record ← Record.read ["id", "code"] value
  return {
    id := ← record.required "id" Decoder.entityId
    code := ← record.required "code" Decoder.text }

/-- The interchange form of a source file. -/
def SourceFile.encode (file : SourceFile) : Json :=
  .object [("id", file.id.encode), ("path", .text file.path), ("content", .text file.content)]

/-- Reads a source file. -/
def SourceFile.decode : Decoder SourceFile := fun value => do
  let record ← Record.read ["id", "path", "content"] value
  return {
    id := ← record.required "id" Decoder.entityId
    path := ← record.required "path" Decoder.text
    content := ← record.required "content" Decoder.text }

/-- The interchange form of a snapshot. -/
def Snapshot.encode (snapshot : Snapshot) : Json :=
  .object [("root", .text snapshot.root), ("files", .listOf SourceFile.encode snapshot.files)]

/-- Reads a snapshot. -/
def Snapshot.decode : Decoder Snapshot := fun value => do
  let record ← Record.read ["root", "files"] value
  return {
    root := ← record.required "root" Decoder.text
    files := ← record.required "files" (Decoder.listOf SourceFile.decode) }

/-- The interchange form of a location: the sort of its source beside its text. -/
def RepoRef.encode : RepoRef → Json
  | .localPath path => .object [("source", .text "local_path"), ("uri", .text path)]
  | .remote uri => .object [("source", .text "remote"), ("uri", .text uri)]

/-- Reads a location. -/
def RepoRef.decode : Decoder RepoRef := fun value => do
  let record ← Record.read ["source", "uri"] value
  let make ← record.required "source"
    (Decoder.variant [("local_path", RepoRef.localPath), ("remote", RepoRef.remote)])
  return make (← record.required "uri" Decoder.text)

end CodeSurvey
