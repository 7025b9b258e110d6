import CodeSurvey.EntityId
import CodeSurvey.Similarity

/-!
# Entities and edges

An entity is a file, a class or a function of the surveyed repository, with what is known about
it: its summary, its embedding, its structure and the score of its summary.  Edges join entities;
physical ones were found by parsing, logical ones were inferred.

## Main definitions

* `EntityKind`, `EdgeKind`: what an entity and an edge may be, and their names.
* `Entity`, `Edge`: the nodes and the arcs of the surveyed graph.
-/

namespace CodeSurvey

/-! ## Kinds -/

/-- What an entity is. -/
inductive EntityKind where
  | file
  | classType
  | function
  deriving DecidableEq, Repr, Inhabited

/-- The name of a kind of entity. -/
def EntityKind.name : EntityKind → String
  | .file => "file"
  | .classType => "class"
  | .function => "function"

/-- How an edge came to be known: by structural parsing, or by inference from names, layers and
similarity. -/
inductive EdgeKind where
  | physical
  | logical
  deriving DecidableEq, Repr, Inhabited

/-- The name of a kind of edge. -/
def EdgeKind.name : EdgeKind → String
  | .physical => "physical"
  | .logical => "logical"

/-! ## Edges -/

/-- A relation between two entities. -/
structure Edge where
  source : EntityId
  target : EntityId
  kind : EdgeKind
  relation : String
  deriving DecidableEq, Repr, Inhabited

/-- An edge found by parsing. -/
def Edge.physical (source target : EntityId) (relation : String) : Edge :=
  ⟨source, target, .physical, relation⟩

/-- An inferred edge. -/
def Edge.logical (source target : EntityId) (relation : String) : Edge :=
  ⟨source, target, .logical, relation⟩

/-! ## Entities -/

/-- A code entity and all that is known about it.  The embedding is empty when there is none. -/
structure Entity where
  id : EntityId
  kind : EntityKind
  summary : String
  details : OrderedMap String String
  embedding : Vector32
  complexity : UInt32
  label : String
  attributes : OrderedMap String String
  score : Float32
  deriving BEq, Inhabited

/-- An entity of which only identity and kind are known; it is labelled by its identity. -/
def Entity.new (id : EntityId) (kind : EntityKind) : Entity where
  id := id
  kind := kind
  summary := ""
  details := .empty
  embedding := []
  complexity := 0
  label := id.label
  attributes := .empty
  score := 0

/-- Whether an embedding is known. -/
def Entity.hasEmbedding (entity : Entity) : Bool := !entity.embedding.isEmpty

end CodeSurvey
