import CodeSurvey.Proofs.Linking.Layers

/-!
# What more information tells

More identities and more vectors tell more links, provided that no identity has two vectors: then a
link that is inferred from a part of the information is inferred from all of it.

## Main results

* `Linking.similarityEdges_subset`: the edges told by embeddings.
* `Linking.infer_subset`: all inferred edges.
-/

namespace CodeSurvey
namespace Linking

variable {similarity : Similarity} {threshold : Float32} {records allRecords : List EmbeddingRecord}

/-- Whether no identity has two vectors. -/
def OneVectorEach (records : List EmbeddingRecord) : Prop :=
  ∀ id v w, ⟨id, v⟩ ∈ records → ⟨id, w⟩ ∈ records → v = w

theorem vectorIn_of_subset (h : records ⊆ allRecords) (hone : OneVectorEach allRecords)
    {id : EntityId} {vector : Vector32} (hvector : vectorIn records id = some vector) :
    vectorIn allRecords id = some vector := by
  obtain ⟨hmem, hne⟩ := mem_of_vectorIn hvector
  exact vectorIn_eq_some (fun other hother => hone id other vector hother (h hmem)) (h hmem) hne

theorem similarityEdges_subset (h : records ⊆ allRecords) (hone : OneVectorEach allRecords) :
    similarityEdges similarity threshold records ⊆
      similarityEdges similarity threshold allRecords := by
  intro edge hedge
  obtain ⟨a, b, v, w, rfl, hlt, hv, hw, hsimilar⟩ := mem_similarityEdges_iff_exists.1 hedge
  exact (mem_similarityEdges_iff a b).2
    ⟨hlt, v, w, vectorIn_of_subset h hone hv, vectorIn_of_subset h hone hw, hsimilar⟩

/-- What is inferred from a part of the information is inferred from all of it. -/
theorem infer_subset {ids allIds : List EntityId} (hids : ids ⊆ allIds)
    (hrecords : records ⊆ allRecords) (hone : OneVectorEach allRecords) :
    infer similarity threshold ids records ⊆ infer similarity threshold allIds allRecords := by
  intro edge hedge
  rcases List.mem_append.1 hedge with hlayer | hsimilar
  · exact List.mem_append_left _ (layerEdges_subset hids hlayer)
  · exact List.mem_append_right _ (similarityEdges_subset hrecords hone hsimilar)

end Linking
end CodeSurvey
