import CodeSurvey.Entity

/-!
# What the analysis stages report

Three independent stages look at a snapshot.  The summarizer reports summaries, possibly seen from
several perspectives; the parser reports a graph of nodes and edges; the embedder reports vectors.
-/

namespace CodeSurvey

/-! ## Summaries -/

/-- A summary of an entity from one perspective. -/
structure ExpertView where
  perspective : String
  text : String
  deriving DecidableEq, Repr

/-- What the summarizer reports about one entity. -/
structure SummaryRecord where
  id : EntityId
  text : String
  confidence : Float32
  kind : EntityKind
  views : List ExpertView

/-! ## Structure -/

/-- A node that the parser reports. -/
structure StructuralNode where
  id : EntityId
  kind : EntityKind
  label : String
  docstring : Option String
  args : List String
  signature : Option String
  code : Option String
  complexity : UInt32
  deriving DecidableEq, Repr

/-- A node of which only identity and kind are known; it is labelled by its identity. -/
def StructuralNode.new (id : EntityId) (kind : EntityKind) : StructuralNode where
  id := id
  kind := kind
  label := id.label
  docstring := none
  args := []
  signature := none
  code := none
  complexity := 0

/-- An edge that the parser reports. -/
structure StructuralEdge where
  source : EntityId
  target : EntityId
  relation : String
  deriving DecidableEq, Repr

/-- All that the parser reports. -/
structure StructuralGraph where
  nodes : List StructuralNode
  edges : List StructuralEdge
  deriving DecidableEq, Repr

namespace StructuralGraph

/-- The graph of a parser that found nothing. -/
def empty : StructuralGraph := ⟨[], []⟩

/-- Whether there is neither a node nor an edge. -/
def isEmpty (graph : StructuralGraph) : Bool := graph.nodes.isEmpty && graph.edges.isEmpty

end StructuralGraph

/-! ## Embeddings -/

/-- The vector that the embedder reports for one entity. -/
structure EmbeddingRecord where
  id : EntityId
  vector : Vector32

end CodeSurvey
