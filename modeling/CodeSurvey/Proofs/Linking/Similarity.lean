import CodeSurvey.Linking.Inference
import CodeSurvey.Proofs.OrderedMap
import Mathlib.Data.List.Nodup

/-!
# Which links similarity tells

Among records of embeddings the first vector of an identity that is not empty counts.  Two
identities are linked exactly if both have such a vector and the vectors are similar enough, and the
link leads from the smaller identity to the greater one.

## Main results

* `Linking.get?_firstVectors`: the vector that counts.
* `Linking.mem_infer_iff`: the similar pairs among the inferred edges.
-/

namespace CodeSurvey
namespace Linking

variable {similarity : Similarity} {threshold : Float32} {records : List EmbeddingRecord}

/-! ## Vectors -/

/-- The first vector of an identity that is not empty. -/
def vectorIn (records : List EmbeddingRecord) (id : EntityId) : Option Vector32 :=
  (records.find? fun record => decide (record.id = id) && !record.vector.isEmpty).map (·.vector)

theorem vectorIn_append (first rest : List EmbeddingRecord) (id : EntityId) :
    vectorIn (first ++ rest) id = (vectorIn first id).or (vectorIn rest id) := by
  rw [vectorIn, vectorIn, vectorIn, List.find?_append, Option.map_or]

theorem mem_of_vectorIn {id : EntityId} {vector : Vector32}
    (h : vectorIn records id = some vector) : ⟨id, vector⟩ ∈ records ∧ vector ≠ [] := by
  obtain ⟨record, hfind, rfl⟩ := Option.map_eq_some_iff.1 h
  have hfound := List.find?_some hfind
  simp only [Bool.and_eq_true, decide_eq_true_eq, Bool.not_eq_true', List.isEmpty_eq_false_iff]
    at hfound
  obtain ⟨rfl, hne⟩ := hfound
  exact ⟨List.mem_of_find?_eq_some hfind, hne⟩

theorem vectorIn_eq_none {id : EntityId} (h : ∀ vector, ⟨id, vector⟩ ∉ records) :
    vectorIn records id = none := by
  cases hvector : vectorIn records id with
  | none => rfl
  | some vector => exact absurd (mem_of_vectorIn hvector).1 (h vector)

/-- Where an identity has one vector only, that vector counts unless it is empty. -/
theorem vectorIn_eq_some {id : EntityId} {vector : Vector32}
    (hunique : ∀ other, ⟨id, other⟩ ∈ records → other = vector)
    (hmem : ⟨id, vector⟩ ∈ records) (hne : vector ≠ []) :
    vectorIn records id = some vector := by
  cases hvector : vectorIn records id with
  | none =>
      rw [vectorIn, Option.map_eq_none_iff, List.find?_eq_none] at hvector
      have hnot := hvector _ hmem
      simp [hne] at hnot
  | some other => rw [hunique other (mem_of_vectorIn hvector).1]

/-- Records of different identities give each identity one vector. -/
theorem vector_eq_of_nodup (h : (records.map (·.id)).Nodup) {id : EntityId} {v w : Vector32}
    (hv : ⟨id, v⟩ ∈ records) (hw : ⟨id, w⟩ ∈ records) : v = w :=
  congrArg EmbeddingRecord.vector (List.inj_on_of_nodup_map h hv hw rfl)

theorem get?_firstVectors (records : List EmbeddingRecord) (id : EntityId) :
    (firstVectors records).get? id = vectorIn records id := by
  suffices hfold : ∀ found : OrderedMap EntityId Vector32,
      (records.foldl (fun found record =>
        if record.vector.isEmpty || found.contains record.id then found
        else found.insert record.id record.vector) found).get? id =
          (found.get? id).or (vectorIn records id) by
    rw [firstVectors, hfold]
    rfl
  induction records with
  | nil => simp [vectorIn]
  | cons record rest ih =>
      intro found
      rw [List.foldl_cons, ih, vectorIn, vectorIn, List.find?_cons]
      cases hempty : record.vector.isEmpty with
      | true => simp
      | false =>
          by_cases hid : record.id = id
          · subst hid
            cases hfound : found.get? record.id with
            | none => simp [OrderedMap.contains, hfound]
            | some vector => simp [OrderedMap.contains, hfound]
          · have hother : ¬id = record.id := fun h => hid h.symm
            cases hcontains : found.contains record.id <;>
              simp [hid, hother, OrderedMap.get?_insert]

/-! ## Pairs -/

/-- In a list that is ordered by an asymmetric relation, the pairs are those that are related. -/
theorem mem_pairs_iff {α : Type} {r : α → α → Prop} (hasymm : ∀ x y, r x y → ¬r y x)
    {xs : List α} (hsorted : xs.Pairwise r) (x y : α) :
    (x, y) ∈ pairs xs ↔ x ∈ xs ∧ y ∈ xs ∧ r x y := by
  induction xs with
  | nil => simp [pairs]
  | cons head rest ih =>
      obtain ⟨hhead, hrest⟩ := List.pairwise_cons.1 hsorted
      rw [pairs, List.mem_append, ih hrest]
      simp only [List.mem_map, Prod.mk.injEq, List.mem_cons]
      constructor
      · rintro (⟨other, hother, rfl, rfl⟩ | ⟨hx, hy, hxy⟩)
        · exact ⟨.inl rfl, .inr hother, hhead _ hother⟩
        · exact ⟨.inr hx, .inr hy, hxy⟩
      · rintro ⟨rfl | hx, rfl | hy, hxy⟩
        · exact absurd hxy (hasymm _ _ hxy)
        · exact .inl ⟨y, hy, rfl, rfl⟩
        · exact absurd (hhead _ hx) (hasymm _ _ hxy)
        · exact .inr ⟨hx, hy, hxy⟩

/-! ## Links -/

/-- Two identities are linked by their vectors, if both have one that counts. -/
theorem mem_similarityEdges_iff (a b : EntityId) :
    Edge.logical a b similarRelation ∈ similarityEdges similarity threshold records ↔
      compare a b = .lt ∧ ∃ v w, vectorIn records a = some v ∧ vectorIn records b = some w ∧
        similarity v w ≥ threshold := by
  have hasymm : ∀ x y : EntityId × Vector32, compare x.1 y.1 = .lt → ¬compare y.1 x.1 = .lt := by
    intro x y hxy hyx
    have hxx : compare x.1 x.1 = .lt := Std.TransCmp.lt_trans hxy hyx
    simp at hxx
  have hmem : ∀ id vector, (id, vector) ∈ (firstVectors records).entries ↔
      vectorIn records id = some vector := by
    intro id vector
    rw [OrderedMap.mem_entries_iff, get?_firstVectors]
  simp only [similarityEdges, List.mem_map, List.mem_filter, Prod.exists, decide_eq_true_eq,
    mem_pairs_iff hasymm (firstVectors records).sorted, hmem]
  constructor
  · rintro ⟨a, v, b, w, ⟨⟨hv, hw, hlt⟩, hsimilar⟩, hedge⟩
    cases hedge
    exact ⟨hlt, v, w, hv, hw, hsimilar⟩
  · rintro ⟨hlt, v, w, hv, hw, hsimilar⟩
    exact ⟨a, v, b, w, ⟨⟨hv, hw, hlt⟩, hsimilar⟩, rfl⟩

/-- Similarity tells nothing but links of this kind. -/
theorem mem_similarityEdges_iff_exists {edge : Edge} :
    edge ∈ similarityEdges similarity threshold records ↔
      ∃ a b v w, edge = .logical a b similarRelation ∧ compare a b = .lt ∧
        vectorIn records a = some v ∧ vectorIn records b = some w ∧ similarity v w ≥ threshold := by
  constructor
  · intro hedge
    obtain ⟨⟨⟨a, _⟩, b, _⟩, _, rfl⟩ := List.mem_map.1 hedge
    obtain ⟨hless, v, w, hv, hw, hsimilar⟩ := (mem_similarityEdges_iff a b).1 hedge
    exact ⟨a, b, v, w, rfl, hless, hv, hw, hsimilar⟩
  · rintro ⟨a, b, v, w, rfl, hless, hv, hw, hsimilar⟩
    exact (mem_similarityEdges_iff a b).2 ⟨hless, v, w, hv, hw, hsimilar⟩

/-- Names tell other relations. -/
theorem relation_ne_of_mem_layerEdges {ids : List EntityId} {edge : Edge}
    (h : edge ∈ layerEdges ids) : edge.relation ≠ similarRelation := by
  obtain ⟨⟨source, target, relation⟩, hlayers, hedge⟩ := List.mem_flatMap.1 h
  obtain ⟨s, _, hlink⟩ := List.mem_flatMap.1 hedge
  obtain ⟨t, _, rfl⟩ := List.mem_map.1 hlink
  have hall : ∀ layers ∈ adjacentLayers, layers.2.2 ≠ similarRelation := by decide
  exact hall _ hlayers

/-- All inferred edges are logical. -/
theorem kind_of_mem_infer {ids : List EntityId} {edge : Edge}
    (h : edge ∈ infer similarity threshold ids records) : edge.kind = .logical := by
  rcases List.mem_append.1 h with hlayer | hsimilar
  · obtain ⟨layers, _, hedge⟩ := List.mem_flatMap.1 hlayer
    obtain ⟨s, _, hlink⟩ := List.mem_flatMap.1 hedge
    obtain ⟨t, _, rfl⟩ := List.mem_map.1 hlink
    rfl
  · obtain ⟨pair, _, rfl⟩ := List.mem_map.1 hsimilar
    rfl

/-- The similar pairs among all inferred edges. -/
theorem mem_infer_iff (ids : List EntityId) (a b : EntityId) :
    Edge.logical a b similarRelation ∈ infer similarity threshold ids records ↔
      compare a b = .lt ∧ ∃ v w, vectorIn records a = some v ∧ vectorIn records b = some w ∧
        similarity v w ≥ threshold := by
  rw [infer, List.mem_append, mem_similarityEdges_iff]
  constructor
  · rintro (hlayer | hsimilar)
    · exact absurd rfl (relation_ne_of_mem_layerEdges hlayer)
    · exact hsimilar
  · exact .inr

end Linking
end CodeSurvey
