import CodeSurvey.Proofs.Linking.Distinct

/-!
# The links between similar entities, in order

Every pair of different identities is compared once, the smaller one with the greater one, and by
the first vector of each that is not empty.  The links come in ascending order of their sources, and
of their targets for the same source.  So where no identity has two records, the order of the
records does not matter at all.

## Main results

* `Linking.pairs_pairwise`: the pairs of an ordered list are ordered.
* `Linking.similarityEdges_ascending`: the order of the links.
* `Linking.similarityEdges_perm`: the order of the records does not matter.
* `Linking.similar_pairs`: which links there are, and in which order.
-/

namespace CodeSurvey
namespace Linking

/-! ## The order of pairs -/

/-- The pairs of an ordered list are ordered by their first elements, and pairs with the same first
element by their second ones. -/
theorem pairs_pairwise {α : Type} {r : α → α → Prop} {xs : List α} (h : xs.Pairwise r) :
    (pairs xs).Pairwise fun p q => r p.1 q.1 ∨ (p.1 = q.1 ∧ r p.2 q.2) := by
  induction xs with
  | nil => exact List.Pairwise.nil
  | cons x rest ih =>
      obtain ⟨hfirst, hrest⟩ := List.pairwise_cons.1 h
      rw [pairs, List.pairwise_append]
      refine ⟨?_, ih hrest, ?_⟩
      · exact List.pairwise_map.2 (hrest.imp fun hyz => .inr ⟨rfl, hyz⟩)
      · rintro _ hfirsts ⟨y, z⟩ hlater
        obtain ⟨_, _, rfl⟩ := List.mem_map.1 hfirsts
        exact .inl (hfirst y (mem_of_mem_pairs hlater))

/-- Whether an edge stands before another one: its source is smaller, or the sources are the same
and its target is smaller. -/
def Precedes (edge other : Edge) : Prop :=
  compare edge.source other.source = .lt ∨
    (edge.source = other.source ∧ compare edge.target other.target = .lt)

section Vectors

variable (similarity : Similarity) (threshold : Float32) (records : List EmbeddingRecord)

theorem similarityEdges_ascending :
    (similarityEdges similarity threshold records).Pairwise Precedes := by
  have hpairs := pairs_pairwise (firstVectors records).sorted
  refine List.pairwise_map.2 ((hpairs.filter _).imp ?_)
  rintro p q (hless | ⟨hsame, hless⟩)
  · exact .inl hless
  · exact .inr ⟨congrArg Prod.fst hsame, hless⟩

/-! ## The order of the records -/

variable {records}

/-- Among records of different identities a vector counts exactly if it is not empty. -/
theorem vectorIn_eq_some_iff (h : (records.map (·.id)).Nodup) (id : EntityId) (vector : Vector32) :
    vectorIn records id = some vector ↔ ⟨id, vector⟩ ∈ records ∧ vector ≠ [] := by
  constructor
  · exact mem_of_vectorIn
  · rintro ⟨hmem, hne⟩
    exact vectorIn_eq_some (fun _ hother => vector_eq_of_nodup h hother hmem) hmem hne

theorem similarityEdges_perm (h : (records.map (·.id)).Nodup) {others : List EmbeddingRecord}
    (hperm : others.Perm records) :
    similarityEdges similarity threshold others = similarityEdges similarity threshold records := by
  have hvectors : firstVectors others = firstVectors records := by
    apply OrderedMap.ext_get?
    intro id
    rw [get?_firstVectors, get?_firstVectors]
    apply Option.ext
    intro vector
    rw [vectorIn_eq_some_iff h, vectorIn_eq_some_iff ((hperm.map _).nodup_iff.2 h),
      hperm.mem_iff]
  rw [similarityEdges, similarityEdges, hvectors]

/-- The links between similar entities ascend strictly, and are exactly those from a smaller to a
greater identity whose first vectors that are not empty are similar enough.  Where no identity is
repeated, every order of the records leads to the same links in the same order. -/
theorem similar_pairs (similarity : Similarity) (threshold : Float32)
    (records : List EmbeddingRecord) :
    (similarityEdges similarity threshold records).Pairwise Precedes ∧
    (∀ edge, edge ∈ similarityEdges similarity threshold records ↔
      ∃ a b v w, edge = .logical a b similarRelation ∧ compare a b = .lt ∧
        vectorIn records a = some v ∧ vectorIn records b = some w ∧
        similarity v w ≥ threshold) ∧
    ((records.map (·.id)).Nodup → ∀ others : List EmbeddingRecord, others.Perm records →
      similarityEdges similarity threshold others =
        similarityEdges similarity threshold records) :=
  ⟨similarityEdges_ascending similarity threshold records,
    fun _ => mem_similarityEdges_iff_exists,
    fun h _ => similarityEdges_perm similarity threshold h⟩

end Vectors

end Linking

/-! ## Three files -/

namespace ThreeFiles

/-- The greater identity comes first, one vector is empty, and one is like no other. -/
def records : List EmbeddingRecord := [
  ⟨⟨"b.py"⟩, [1, 0.05]⟩, ⟨⟨"d.py"⟩, []⟩, ⟨⟨"a.py"⟩, [1, 0]⟩, ⟨⟨"c.py"⟩, [0, 1]⟩]

end ThreeFiles

namespace Linking

/-- Two of the files are linked, from the smaller to the greater one, even if they are given the
other way round. -/
theorem similar_pairs_three_files :
    similarityEdges .cosine 0.9 ThreeFiles.records =
        [.logical ⟨"a.py"⟩ ⟨"b.py"⟩ similarRelation] ∧
      similarityEdges .cosine 0.9 ThreeFiles.records.reverse =
        similarityEdges .cosine 0.9 ThreeFiles.records := by
  obtain ⟨-, -, horder⟩ := similar_pairs .cosine 0.9 ThreeFiles.records
  exact ⟨by decide +kernel,
    horder (by decide +kernel) ThreeFiles.records.reverse (List.reverse_perm _)⟩

end Linking
end CodeSurvey
