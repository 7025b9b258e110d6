import CodeSurvey.Codec.Run
import CodeSurvey.Proofs.Json.Variant
import CodeSurvey.Proofs.OrderedMap
import CodeSurvey.Proofs.Run.Id

/-!
# Records read back

What is written of a record without single-precision numbers is read as that record, and so is every
variant of it.  The fields of each record are told here in their declared order, with what stands for
an absent one: null for what may be missing, the empty list for arguments, and zero for a complexity.

## Main results

* `OrderedSet.ofElements_keys`, `RunId.ofText?_text`: sets and identities of runs are read back.
* `Codec.variants_read_back`: so are all of these records, and their variants.
-/

namespace CodeSurvey

open Json (Decoder Edit Fields RoundTrips Variant bind_ok reads_plain reads_record)

/-! ## Values -/

/-- Texts are written as they are, and read back. -/
theorem Json.roundTrips_text : RoundTrips .plain Json.text Decoder.text := by
  intro text
  exact reads_plain rfl

/-- A text that may be missing is written as null where it is, which no text is read as. -/
theorem Json.roundTrips_optionalText :
    RoundTrips .plain (Json.optional Json.text) (Decoder.option Decoder.text) :=
  roundTrips_text.option fun _ => Json.noConfusion

/-- A counter of 32 bits is written as a number in its range, and read back. -/
theorem Json.roundTrips_uint32 :
    RoundTrips .plain (fun n : UInt32 => Json.nat n.toNat) Decoder.uint32 := by
  intro n
  apply reads_plain
  have hread : Decoder.natBelow UInt32.size (Json.nat n.toNat) = .ok n.toNat :=
    if_pos n.toNat_lt_size
  unfold Decoder.uint32
  rw [hread]
  exact congrArg Except.ok UInt32.ofNat_toNat

/-- An identity is written as its text, which is never refused. -/
theorem EntityId.roundTrips : RoundTrips .plain EntityId.encode Decoder.entityId := by
  intro id
  exact reads_plain rfl

/-- Different kinds of entities have different names, by which they are read back. -/
theorem EntityKind.roundTrips : RoundTrips .plain EntityKind.encode EntityKind.decode := by
  intro kind
  apply reads_plain
  cases kind <;> rfl

/-- Different kinds of edges have different names, by which they are read back. -/
theorem EdgeKind.roundTrips : RoundTrips .plain EdgeKind.encode EdgeKind.decode := by
  intro kind
  apply reads_plain
  cases kind <;> rfl

/-- The statuses of runs are read back by their names. -/
theorem RunStatus.roundTrips :
    RoundTrips .plain (fun status => Json.text (RunStatus.name status)) RunStatus.decode := by
  intro status
  apply reads_plain
  cases status <;> rfl

/-- The roles of messages are read back by their names. -/
theorem Judge.Role.roundTrips :
    RoundTrips .plain (fun role => Json.text (Role.name role)) Role.decode := by
  intro role
  apply reads_plain
  cases role <;> rfl

/-- The identity of a run is read back from its hyphenated text. -/
theorem RunId.roundTrips :
    RoundTrips .plain (fun id => Json.text (RunId.text id)) RunId.decode := by
  intro id
  apply reads_plain
  unfold RunId.decode
  refine bind_ok (rfl : Decoder.text (.text id.text) = .ok id.text) ?_
  rw [RunId.ofText?_text]
  rfl

/-- A set of targets is written in ascending order, and reading it back sorts nothing anew. -/
theorem TargetSet.roundTrips : RoundTrips .plain TargetSet.encode Decoder.targetSet := by
  intro set
  apply reads_plain
  have hread : Decoder.listOf Decoder.entityId (TargetSet.encode set) = .ok set.keys :=
    EntityId.roundTrips.listOf set.keys _ .refl
  unfold Decoder.targetSet
  rw [hread]
  exact congrArg Except.ok (OrderedSet.ofElements_keys set)

/-- A run without targets is told apart from one whose set of targets is empty. -/
theorem TargetSet.roundTrips_optional :
    RoundTrips .plain (Json.optional TargetSet.encode) (Decoder.option Decoder.targetSet) :=
  TargetSet.roundTrips.option fun _ => Json.noConfusion

/-! ## Edges and views -/

namespace Edge

/-- The fields of an edge. -/
def fields : Fields := [
  ("source", none, .plain), ("target", none, .plain), ("kind", none, .plain),
  ("relation", none, .plain)]

/-- An edge is read back with both ends, its kind and its relation. -/
theorem roundTrips : RoundTrips (.record fields) encode decode := by
  intro edge
  refine reads_record (by decide) ⟨_, rfl⟩ fun record htells => ?_
  refine bind_ok (htells.required (by simp [fields]) rfl (EntityId.roundTrips edge.source)) ?_
  refine bind_ok (htells.required (by simp [fields]) rfl (EntityId.roundTrips edge.target)) ?_
  refine bind_ok (htells.required (by simp [fields]) rfl (EdgeKind.roundTrips edge.kind)) ?_
  refine bind_ok (htells.required (by simp [fields]) rfl (Json.roundTrips_text edge.relation)) ?_
  rfl

end Edge

namespace ExpertView

/-- The fields of a view. -/
def fields : Fields := [
  ("perspective", none, .plain), ("text", none, .plain)]

/-- A view is read back with the name of its expert and its text. -/
theorem roundTrips : RoundTrips (.record fields) encode decode := by
  intro view
  refine reads_record (by decide) ⟨_, rfl⟩ fun record htells => ?_
  refine bind_ok (htells.required (by simp [fields]) rfl (Json.roundTrips_text view.perspective)) ?_
  refine bind_ok (htells.required (by simp [fields]) rfl (Json.roundTrips_text view.text)) ?_
  rfl

end ExpertView

/-! ## What the parser reports -/

namespace StructuralNode

/-- The fields of a node. -/
def fields : Fields := [
  ("id", none, .plain), ("kind", none, .plain), ("label", none, .plain),
  ("docstring", some .null, .plain), ("args", some (.array []), .list .plain),
  ("signature", some .null, .plain), ("code", some .null, .plain),
  ("complexity", some (.nat 0), .plain)]

/-- A node is read back, and absent attributes of it are taken for null, none or zero. -/
theorem roundTrips : RoundTrips (.record fields) encode decode := by
  intro node
  refine reads_record (by decide) ⟨_, rfl⟩ fun record htells => ?_
  refine bind_ok (htells.required (by simp [fields]) rfl (EntityId.roundTrips node.id)) ?_
  refine bind_ok (htells.required (by simp [fields]) rfl (EntityKind.roundTrips node.kind)) ?_
  refine bind_ok (htells.required (by simp [fields]) rfl (Json.roundTrips_text node.label)) ?_
  refine bind_ok (htells.defaulted .null (by simp [fields]) rfl
    (Json.roundTrips_optionalText node.docstring) rfl) ?_
  refine bind_ok (htells.defaulted (.array []) (by simp [fields]) rfl
    (Json.roundTrips_text.listOf node.args) rfl) ?_
  refine bind_ok (htells.defaulted .null (by simp [fields]) rfl
    (Json.roundTrips_optionalText node.signature) rfl) ?_
  refine bind_ok (htells.defaulted .null (by simp [fields]) rfl
    (Json.roundTrips_optionalText node.code) rfl) ?_
  refine bind_ok (htells.defaulted (.nat 0) (by simp [fields]) rfl
    (Json.roundTrips_uint32 node.complexity) rfl) ?_
  rfl

end StructuralNode

namespace StructuralEdge

/-- The fields of an edge that the parser reports. -/
def fields : Fields := [
  ("source", none, .plain), ("target", none, .plain), ("relation", none, .plain)]

/-- An edge between nodes is read back by the identities of its ends. -/
theorem roundTrips : RoundTrips (.record fields) encode decode := by
  intro edge
  refine reads_record (by decide) ⟨_, rfl⟩ fun record htells => ?_
  refine bind_ok (htells.required (by simp [fields]) rfl (EntityId.roundTrips edge.source)) ?_
  refine bind_ok (htells.required (by simp [fields]) rfl (EntityId.roundTrips edge.target)) ?_
  refine bind_ok (htells.required (by simp [fields]) rfl (Json.roundTrips_text edge.relation)) ?_
  rfl

end StructuralEdge

namespace StructuralGraph

/-- The fields of a graph. -/
def fields : Fields := [
  ("nodes", none, .list (.record StructuralNode.fields)),
  ("edges", none, .list (.record StructuralEdge.fields))]

/-- A graph is read back if each of its nodes and each of its edges is. -/
theorem roundTrips : RoundTrips (.record fields) encode decode := by
  intro graph
  refine reads_record (by decide) ⟨_, rfl⟩ fun record htells => ?_
  refine bind_ok (htells.required (by simp [fields]) rfl
    (StructuralNode.roundTrips.listOf graph.nodes)) ?_
  refine bind_ok (htells.required (by simp [fields]) rfl
    (StructuralEdge.roundTrips.listOf graph.edges)) ?_
  rfl

end StructuralGraph

/-! ## Repositories -/

namespace Snippet

/-- The fields of a snippet. -/
def fields : Fields := [
  ("id", none, .plain), ("code", none, .plain)]

/-- A snippet is read back with the identity of its file. -/
theorem roundTrips : RoundTrips (.record fields) encode decode := by
  intro snippet
  refine reads_record (by decide) ⟨_, rfl⟩ fun record htells => ?_
  refine bind_ok (htells.required (by simp [fields]) rfl (EntityId.roundTrips snippet.id)) ?_
  refine bind_ok (htells.required (by simp [fields]) rfl (Json.roundTrips_text snippet.code)) ?_
  rfl

end Snippet

namespace SourceFile

/-- The fields of a source file. -/
def fields : Fields := [
  ("id", none, .plain), ("path", none, .plain), ("content", none, .plain)]

/-- A file is read back with its content. -/
theorem roundTrips : RoundTrips (.record fields) encode decode := by
  intro file
  refine reads_record (by decide) ⟨_, rfl⟩ fun record htells => ?_
  refine bind_ok (htells.required (by simp [fields]) rfl (EntityId.roundTrips file.id)) ?_
  refine bind_ok (htells.required (by simp [fields]) rfl (Json.roundTrips_text file.path)) ?_
  refine bind_ok (htells.required (by simp [fields]) rfl (Json.roundTrips_text file.content)) ?_
  rfl

end SourceFile

namespace Snapshot

/-- The fields of a snapshot. -/
def fields : Fields := [
  ("root", none, .plain), ("files", none, .list (.record SourceFile.fields))]

/-- A snapshot is read back if each of its files is. -/
theorem roundTrips : RoundTrips (.record fields) encode decode := by
  intro snapshot
  refine reads_record (by decide) ⟨_, rfl⟩ fun record htells => ?_
  refine bind_ok (htells.required (by simp [fields]) rfl (Json.roundTrips_text snapshot.root)) ?_
  refine bind_ok (htells.required (by simp [fields]) rfl
    (SourceFile.roundTrips.listOf snapshot.files)) ?_
  rfl

end Snapshot

namespace RepoRef

/-- The fields of a location. -/
def fields : Fields := [("source", none, .plain), ("uri", none, .plain)]

/-- A location is read back as a path or as a remote one, as its source says. -/
theorem roundTrips : RoundTrips (.record fields) encode decode := by
  intro ref
  cases ref with
  | localPath path =>
      refine reads_record (by decide) ⟨_, rfl⟩ fun record htells => ?_
      refine bind_ok (htells.required (by simp [fields]) rfl (reads_plain rfl)) ?_
      refine bind_ok (htells.required (by simp [fields]) rfl (Json.roundTrips_text path)) ?_
      rfl
  | remote uri =>
      refine reads_record (by decide) ⟨_, rfl⟩ fun record htells => ?_
      refine bind_ok (htells.required (by simp [fields]) rfl (reads_plain rfl)) ?_
      refine bind_ok (htells.required (by simp [fields]) rfl (Json.roundTrips_text uri)) ?_
      rfl

end RepoRef

/-! ## Messages and runs -/

namespace Judge.Message

/-- The fields of a message. -/
def fields : Fields := [
  ("role", none, .plain), ("content", none, .plain)]

/-- A message is read back with the role of its author. -/
theorem roundTrips : RoundTrips (.record fields) encode decode := by
  intro message
  refine reads_record (by decide) ⟨_, rfl⟩ fun record htells => ?_
  refine bind_ok (htells.required (by simp [fields]) rfl (Role.roundTrips message.role)) ?_
  refine bind_ok (htells.required (by simp [fields]) rfl (Json.roundTrips_text message.content)) ?_
  rfl

end Judge.Message

namespace Run

/-- The fields of a run. -/
def fields : Fields := [
  ("run_id", none, .plain), ("retry_count", none, .plain), ("max_retries", none, .plain),
  ("status", none, .plain), ("target_entity_ids", some .null, .plain)]

/-- A run is read back with its counters, its status and its targets. -/
theorem roundTrips : RoundTrips (.record fields) encode decode := by
  intro run
  refine reads_record (by decide) ⟨_, rfl⟩ fun record htells => ?_
  refine bind_ok (htells.required (by simp [fields]) rfl (RunId.roundTrips run.id)) ?_
  refine bind_ok (htells.required (by simp [fields]) rfl (Json.roundTrips_uint32 run.retryCount)) ?_
  refine bind_ok (htells.required (by simp [fields]) rfl (Json.roundTrips_uint32 run.maxRetries)) ?_
  refine bind_ok (htells.required (by simp [fields]) rfl (RunStatus.roundTrips run.status)) ?_
  refine bind_ok (htells.optional (by simp [fields]) rfl
    (TargetSet.roundTrips_optional run.targets)) ?_
  rfl

end Run

/-! ## All records -/

namespace Codec

/-- Every variant of what is written of one of these records is read as that record.  A run without
targets and one with no target among them have no variant in common. -/
theorem variants_read_back :
    RoundTrips (.record Edge.fields) Edge.encode Edge.decode ∧
    RoundTrips (.record ExpertView.fields) ExpertView.encode ExpertView.decode ∧
    RoundTrips (.record StructuralNode.fields) StructuralNode.encode StructuralNode.decode ∧
    RoundTrips (.record StructuralEdge.fields) StructuralEdge.encode StructuralEdge.decode ∧
    RoundTrips (.record StructuralGraph.fields) StructuralGraph.encode StructuralGraph.decode ∧
    RoundTrips (.record Snippet.fields) Snippet.encode Snippet.decode ∧
    RoundTrips (.record SourceFile.fields) SourceFile.encode SourceFile.decode ∧
    RoundTrips (.record Snapshot.fields) Snapshot.encode Snapshot.decode ∧
    RoundTrips (.record RepoRef.fields) RepoRef.encode RepoRef.decode ∧
    RoundTrips (.record Judge.Message.fields) Judge.Message.encode Judge.Message.decode ∧
    RoundTrips (.record Run.fields) Run.encode Run.decode ∧
    ∀ (run : Run) (value : Json),
      Variant (.record Run.fields) { run with targets := none }.encode value →
      ¬ Variant (.record Run.fields) { run with targets := some .empty }.encode value := by
  refine ⟨Edge.roundTrips, ExpertView.roundTrips, StructuralNode.roundTrips,
    StructuralEdge.roundTrips, StructuralGraph.roundTrips, Snippet.roundTrips,
    SourceFile.roundTrips, Snapshot.roundTrips, RepoRef.roundTrips, Judge.Message.roundTrips,
    Run.roundTrips, ?_⟩
  intro run value hnone hempty
  have hread := (Run.roundTrips _ _ hnone).symm.trans (Run.roundTrips _ _ hempty)
  simp at hread

end Codec

/-! ## A graph in another form -/

namespace NodeTwice

/-- A file of which nothing else is known. -/
def node : StructuralNode := ⟨⟨"a.py"⟩, .file, "a.py", none, [], none, none, 0⟩

/-- The file, reported twice. -/
def graph : StructuralGraph := ⟨[node, node], []⟩

/-- The node as an array. -/
def array : Json :=
  .array [.text "a.py", .text "file", .text "a.py", .null, .array [], .null, .null, .nat 0]

/-- The node without documentation. -/
def object : Json := .object [
  ("id", .text "a.py"), ("kind", .text "file"), ("label", .text "a.py"), ("args", .array []),
  ("signature", .null), ("code", .null), ("complexity", .nat 0)]

/-- The graph with one more field, and its fields the other way round. -/
def value : Json :=
  .object [("edges", .array []), ("nodes", .array [array, object]), ("tool", .null)]

/-- The graph with its fields in another order, one of them unknown, is a variant of what is
written. -/
theorem variant : Variant (.record StructuralGraph.fields) graph.encode value := by
  have hnodes : ("nodes", none, .list (.record StructuralNode.fields)) ∈ StructuralGraph.fields := by
    simp [StructuralGraph.fields]
  have hdocstring : ("docstring", some .null, .plain) ∈ StructuralNode.fields := by
    simp [StructuralNode.fields]
  have htool : "tool" ∉ StructuralGraph.fields.names := by
    decide
  have hfirst : Edit (.record StructuralNode.fields) node.encode array := .array rfl
  have hsecond : Edit (.record StructuralNode.fields) node.encode object :=
    .drop [("id", .text "a.py"), ("kind", .text "file"), ("label", .text "a.py")] _ hdocstring
  refine .head (.field [] _ hnodes (.item [] [node.encode] hfirst)) ?_
  refine .head (.field [] _ hnodes (.item [array] [] hsecond)) ?_
  refine .head (.unknown _ .null htool) ?_
  exact .single (.order (List.reverse_perm _).symm)

end NodeTwice

namespace Codec

/-- The graph is read from the other form. -/
theorem variants_read_back_graph : StructuralGraph.decode NodeTwice.value = .ok NodeTwice.graph := by
  obtain ⟨-, -, -, -, hgraph, -⟩ := variants_read_back
  exact hgraph NodeTwice.graph NodeTwice.value NodeTwice.variant

end Codec
end CodeSurvey
