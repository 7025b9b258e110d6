import CodeSurvey.Proofs.Linking.Similarity
import Mathlib.Data.List.Nodup

/-!
# Every link is inferred once

Identities may be repeated and may have several vectors, but no edge is inferred twice: files and
vectors are compared once per identity, and each kind of comparison tells a relation of its own.

## Main results

* `Linking.layerEdges_nodup`: the edges told by names.
* `Linking.similarityEdges_nodup`: the edges told by embeddings.
* `Linking.infer_nodup`: all inferred edges.
-/

namespace CodeSurvey
namespace Linking

/-! ## Edges between layers -/

/-- What is left without repetitions has none. -/
theorem nodup_eraseDups {α : Type} [DecidableEq α] (xs : List α) : xs.eraseDups.Nodup := by
  match xs with
  | [] => exact List.nodup_nil
  | x :: rest =>
      rw [List.eraseDups_cons, List.nodup_cons]
      refine ⟨?_, nodup_eraseDups (rest.filter fun y => !y == x)⟩
      simp
termination_by xs.length
decreasing_by exact Nat.lt_succ_of_le (List.length_filter_le _ _)

/-- No identity is a candidate twice. -/
theorem nodup_candidates (ids : List EntityId) : ((candidates ids).map (·.id)).Nodup := by
  have hids : (candidates ids).map (·.id) = (ids.filter fun id => !id.isNested).eraseDups := by
    rw [candidates, List.map_map]
    exact List.map_id _
  rw [hids]
  exact nodup_eraseDups _

/-- Between two layers no link is made twice. -/
theorem linksBetween_nodup {all : List Candidate} (h : (all.map (·.id)).Nodup)
    (source target : Layer) (relation : String) :
    (linksBetween all source target relation).Nodup := by
  rw [linksBetween, List.nodup_flatMap]
  constructor
  · intro s _
    have htargets : (((all.filter fun c => c.layer = target).filter fun t =>
        sharesStem s t).map (·.id)).Nodup :=
      h.sublist ((List.filter_sublist.trans List.filter_sublist).map _)
    have hlinks := htargets.map (f := fun id => Edge.logical s.id id relation)
      fun a b hsame => congrArg Edge.target hsame
    rwa [List.map_map] at hlinks
  · have hsources : ((all.filter fun c => c.layer = source).map (·.id)).Nodup :=
      h.sublist (List.filter_sublist.map _)
    refine (List.pairwise_map.1 hsources).imp ?_
    intro s other hne edge hedge hother
    obtain ⟨t, _, rfl⟩ := List.mem_map.1 hedge
    obtain ⟨u, _, hsame⟩ := List.mem_map.1 hother
    exact hne (congrArg Edge.source hsame).symm

/-- A link between two layers bears the relation of these layers. -/
theorem relation_of_mem_linksBetween {all : List Candidate} {source target : Layer}
    {relation : String} {edge : Edge} (h : edge ∈ linksBetween all source target relation) :
    edge.relation = relation := by
  obtain ⟨s, _, hlink⟩ := List.mem_flatMap.1 h
  obtain ⟨t, _, rfl⟩ := List.mem_map.1 hlink
  rfl

/-- Links of different layers differ in their relations, so that none is made twice. -/
theorem layerEdges_nodup (ids : List EntityId) : (layerEdges ids).Nodup := by
  rw [layerEdges, List.nodup_flatMap]
  constructor
  · exact fun layers _ => linksBetween_nodup (nodup_candidates ids) _ _ _
  · have hrelations : adjacentLayers.Pairwise fun layers other => layers.2.2 ≠ other.2.2 := by
      decide
    refine hrelations.imp ?_
    intro layers other hne edge hedge hother
    exact hne ((relation_of_mem_linksBetween hedge).symm.trans
      (relation_of_mem_linksBetween hother))

/-! ## Edges between similar entities -/

/-- The pairs of changed elements are the changed pairs. -/
theorem pairs_map {α β : Type} (f : α → β) (xs : List α) :
    pairs (xs.map f) = (pairs xs).map fun pair => (f pair.1, f pair.2) := by
  induction xs with
  | nil => rfl
  | cons x rest ih =>
      rw [List.map_cons, pairs, pairs, ih, List.map_append, List.map_map, List.map_map]
      rfl

/-- The first element of a pair is in the list. -/
theorem mem_of_mem_pairs {α : Type} {xs : List α} {x y : α} (h : (x, y) ∈ pairs xs) :
    x ∈ xs := by
  induction xs with
  | nil => cases h
  | cons z rest ih =>
      rcases List.mem_append.1 h with hfirst | hrest
      · obtain ⟨_, _, hsame⟩ := List.mem_map.1 hfirst
        cases hsame
        exact List.mem_cons_self
      · exact List.mem_cons_of_mem _ (ih hrest)

/-- Different elements make different pairs. -/
theorem pairs_nodup {α : Type} {xs : List α} (h : xs.Nodup) : (pairs xs).Nodup := by
  induction xs with
  | nil => exact List.nodup_nil
  | cons x rest ih =>
      obtain ⟨hx, hrest⟩ := List.nodup_cons.1 h
      rw [pairs, List.nodup_append]
      refine ⟨hrest.map fun a b hsame => congrArg Prod.snd hsame, ih hrest, ?_⟩
      rintro _ hfirst _ hlater rfl
      obtain ⟨y, _, rfl⟩ := List.mem_map.1 hfirst
      exact hx (mem_of_mem_pairs hlater)

section Vectors

variable (similarity : Similarity) (threshold : Float32) (records : List EmbeddingRecord)

/-- No two entities are linked twice for their similarity. -/
theorem similarityEdges_nodup : (similarityEdges similarity threshold records).Nodup := by
  have hpairs : ((pairs (firstVectors records).entries).map fun pair =>
      (pair.1.1, pair.2.1)).Nodup := by
    rw [← pairs_map]
    exact pairs_nodup (firstVectors records).keys_nodup
  have hinjective : Function.Injective fun ids : EntityId × EntityId =>
      Edge.logical ids.1 ids.2 similarRelation := by
    rintro ⟨a, b⟩ ⟨c, d⟩ hsame
    cases hsame
    rfl
  have hedges := hpairs.map hinjective
  rw [List.map_map] at hedges
  exact hedges.sublist (List.filter_sublist.map _)

/-- No edge is inferred twice, whatever identities and vectors are repeated. -/
theorem infer_nodup (ids : List EntityId) : (infer similarity threshold ids records).Nodup := by
  rw [infer, List.nodup_append]
  refine ⟨layerEdges_nodup ids, similarityEdges_nodup similarity threshold records, ?_⟩
  rintro edge hlayer _ hsimilar rfl
  apply relation_ne_of_mem_layerEdges hlayer
  obtain ⟨pair, _, rfl⟩ := List.mem_map.1 hsimilar
  rfl

end Vectors

end Linking
end CodeSurvey
