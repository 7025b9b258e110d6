import CodeSurvey.Analysis
import CodeSurvey.Linking.Layer

/-!
# Inferring logical edges

Two kinds of logical edges are inferred: between files with the same stem in adjacent layers, and
between entities whose embeddings are similar.

## Main definitions

* `Linking.layerEdges`: the edges told by names.
* `Linking.similarityEdges`: the edges told by embeddings, one for each unordered pair.
-/

namespace CodeSurvey
namespace Linking

/-! ## Edges between layers -/

/-- A file to be linked, with its layer and its stem. -/
structure Candidate where
  id : EntityId
  layer : Layer
  stem : String

/-- The files among the identities, each one once, in order of first occurrence. -/
def candidates (ids : List EntityId) : List Candidate :=
  (ids.filter fun id => !id.isNested).eraseDups.map fun id =>
    ⟨id, Layer.detect id, Stem.ofId id⟩

/-- Which layers are adjacent, and the relation between them. -/
def adjacentLayers : List (Layer × Layer × String) := [
  (.presentation, .service, "architectural_flow"),
  (.service, .repository, "data_access"),
  (.service, .domain, "uses_model")]

/-- Stems of up to this many bytes link nothing. -/
def shortStem : Nat := 2

/-- Whether the candidates share a stem that is not too short. -/
def sharesStem (source target : Candidate) : Bool :=
  decide (shortStem < source.stem.utf8ByteSize) && source.stem == target.stem

/-- The edges from the candidates of one layer to those of another. -/
def linksBetween (all : List Candidate) (source target : Layer) (relation : String) : List Edge :=
  (all.filter fun c => c.layer = source).flatMap fun s =>
    ((all.filter fun c => c.layer = target).filter fun t => sharesStem s t).map fun t =>
      Edge.logical s.id t.id relation

/-- The edges between files with the same stem in adjacent layers. -/
def layerEdges (ids : List EntityId) : List Edge :=
  adjacentLayers.flatMap fun (source, target, relation) =>
    linksBetween (candidates ids) source target relation

/-! ## Edges between similar entities -/

/-- The first vector of each entity that has one, in order of the identities. -/
def firstVectors (records : List EmbeddingRecord) : OrderedMap EntityId Vector32 :=
  records.foldl
    (fun found record =>
      if record.vector.isEmpty || found.contains record.id then found
      else found.insert record.id record.vector)
    .empty

/-- The pairs of an earlier and a later element. -/
def pairs {α : Type} : List α → List (α × α)
  | [] => []
  | x :: xs => xs.map (fun y => (x, y)) ++ pairs xs

/-- The relation between similar entities. -/
def similarRelation : String := "semantically_similar"

/-- One edge for each pair of entities whose similarity reaches the threshold, from the smaller
identity to the greater one. -/
def similarityEdges (similarity : Similarity) (threshold : Float32)
    (records : List EmbeddingRecord) : List Edge :=
  ((pairs (firstVectors records).entries).filter fun (a, b) =>
      decide (similarity a.2 b.2 ≥ threshold)).map fun (a, b) =>
    Edge.logical a.1 b.1 similarRelation

/-- All inferred edges: those between layers, and then those between similar entities. -/
def infer (similarity : Similarity) (threshold : Float32) (ids : List EntityId)
    (records : List EmbeddingRecord) : List Edge :=
  layerEdges ids ++ similarityEdges similarity threshold records

end Linking
end CodeSurvey
