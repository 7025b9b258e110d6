import CodeSurvey.Proofs.OrderedMap
import CodeSurvey.Store

/-!
# Stores by their lookups

A store that is built by upserts keeps every entity under its own identity.  This file proves so
for the operations on stores, and says what they do to a lookup.

## Main results

* `Store.Keyed`: every entity is stored under its own identity.
* `Store.ext_get?`: a store is known by its lookups and its edges.
* `Store.get?_upsertAll`: after many upserts the last one of an identity counts.
-/

namespace CodeSurvey

/-- An entity has an embedding if its vector is not empty. -/
theorem Entity.hasEmbedding_iff (entity : Entity) :
    entity.hasEmbedding = true ↔ entity.embedding ≠ [] := by
  simp [hasEmbedding]

namespace Store

/-! ## Lookups -/

/-- An entity that is stored is seen under its own identity alone. -/
theorem get?_upsert (store : Store) (entity : Entity) (id : EntityId) :
    (store.upsert entity).get? id = if id = entity.id then some entity else store.get? id :=
  OrderedMap.get?_insert ..

/-- A change of an entity is seen under its identity alone. -/
theorem get?_modify (store : Store) (key id : EntityId) (change : Entity → Entity) :
    (store.modify key change).get? id =
      if id = key then (store.get? id).map change else store.get? id :=
  OrderedMap.get?_modify ..

/-- A store contains the identities that are found in it. -/
theorem contains_eq_isSome (store : Store) (id : EntityId) :
    store.contains id = (store.get? id).isSome :=
  rfl

@[simp]
theorem get?_empty (id : EntityId) : empty.get? id = none :=
  rfl

@[simp]
theorem get?_mapEntities (store : Store) (change : Entity → Entity) (id : EntityId) :
    (store.mapEntities change).get? id = (store.get? id).map change :=
  OrderedMap.get?_mapValues ..

/-- A change of all entities keeps their order. -/
@[simp]
theorem entities_mapEntities (store : Store) (change : Entity → Entity) :
    (store.mapEntities change).entities = store.entities.map change := by
  simp [entities, mapEntities, OrderedMap.values, OrderedMap.mapValues]

/-- Stores with the same lookups and the same edges are equal. -/
theorem ext_get? {store other : Store} (h : ∀ id, store.get? id = other.get? id)
    (hedges : store.edges = other.edges) : store = other := by
  obtain ⟨entries, edges⟩ := store
  obtain ⟨otherEntries, otherEdges⟩ := other
  obtain rfl : entries = otherEntries := OrderedMap.ext_get? h
  obtain rfl : edges = otherEdges := hedges
  rfl

/-- Changes at different keys may be made in any order. -/
theorem modify_comm (store : Store) {key other : EntityId} (hne : key ≠ other)
    (change next : Entity → Entity) :
    (store.modify key change).modify other next =
      (store.modify other next).modify key change := by
  refine ext_get? (fun id => ?_) rfl
  simp only [get?_modify]
  by_cases hkey : id = key
  · have hother : id ≠ other := fun h => hne (hkey.symm.trans h)
    simp only [if_pos hkey, if_neg hother]
  · simp only [if_neg hkey]

/-- The identities of a store are those that it contains. -/
theorem mem_ids_iff (store : Store) (id : EntityId) : id ∈ store.ids ↔ store.contains id = true :=
  OrderedMap.mem_keys_iff ..

/-- The edges that dangle are those with an end that is not listed. -/
theorem danglingEdges_eq_filter (store : Store) :
    store.danglingEdges =
      store.edges.filter fun edge => edge.source ∉ store.ids ∨ edge.target ∉ store.ids := by
  apply List.filter_congr
  intro edge _
  simp [isDangling, mem_ids_iff]

/-- Stores with the same members list the same identities. -/
theorem ids_eq_of_contains {store other : Store}
    (h : ∀ id, store.contains id = other.contains id) : store.ids = other.ids :=
  OrderedMap.keys_eq_of_contains h

/-- Many upserts, from left to right. -/
def upsertAll (store : Store) (entities : List Entity) : Store := entities.foldl upsert store

/-- Storing entities leaves the edges alone. -/
@[simp]
theorem upsertAll_edges (store : Store) (entities : List Entity) :
    (store.upsertAll entities).edges = store.edges := by
  induction entities generalizing store with
  | nil => rfl
  | cons entity rest ih => exact ih (store.upsert entity)

/-- Entities may be stored in two goes. -/
theorem upsertAll_append (store : Store) (first rest : List Entity) :
    store.upsertAll (first ++ rest) = (store.upsertAll first).upsertAll rest :=
  List.foldl_append

/-- After many upserts the last entity with an identity is the one that is found. -/
theorem get?_upsertAll (store : Store) (entities : List Entity) (id : EntityId) :
    (store.upsertAll entities).get? id =
      (entities.reverse.find? fun entity => id = entity.id).or (store.get? id) := by
  induction entities generalizing store with
  | nil => rfl
  | cons entity rest ih =>
      have hstep : (store.upsertAll (entity :: rest)).get? id =
          ((store.upsert entity).upsertAll rest).get? id := rfl
      rw [hstep, ih, get?_upsert, List.reverse_cons, List.find?_append]
      by_cases hid : id = entity.id
      · simp [hid]
      · simp [hid]

/-! ## Entities under their own identities -/

/-- Every entity is stored under its own identity. -/
def Keyed (store : Store) : Prop :=
  ∀ id entity, store.get? id = some entity → entity.id = id

theorem keyed_empty : empty.Keyed := by
  intro id entity h
  simp at h

/-- An entity is stored under its own identity. -/
theorem Keyed.upsert {store : Store} (h : store.Keyed) (entity : Entity) :
    (store.upsert entity).Keyed := by
  intro id other hother
  rw [get?_upsert] at hother
  split at hother
  · rename_i hid
    rw [hid, ← Option.some.inj hother]
  · exact h _ _ hother

/-- Entities are stored under their own identities. -/
theorem Keyed.upsertAll {store : Store} (h : store.Keyed) (entities : List Entity) :
    (store.upsertAll entities).Keyed := by
  induction entities generalizing store with
  | nil => exact h
  | cons entity rest ih => exact ih (h.upsert entity)

/-- The entities of a store are those that are found in it. -/
theorem mem_entities_iff (store : Store) (entity : Entity) :
    entity ∈ store.entities ↔ ∃ id, store.get? id = some entity :=
  OrderedMap.mem_values_iff ..

/-- The entities of a keyed store are those that are found under their own identities. -/
theorem Keyed.mem_entities_iff {store : Store} (h : store.Keyed) (entity : Entity) :
    entity ∈ store.entities ↔ store.get? entity.id = some entity := by
  rw [Store.mem_entities_iff]
  constructor
  · rintro ⟨id, hid⟩
    rw [h _ _ hid]
    exact hid
  · intro hid
    exact ⟨entity.id, hid⟩

/-- The identities of the listed entities are the keys, in the same order. -/
theorem Keyed.map_id_entities {store : Store} (h : store.Keyed) :
    store.entities.map (·.id) = store.ids := by
  rw [entities, ids, OrderedMap.values, OrderedMap.keys, List.map_map]
  apply List.map_congr_left
  rintro ⟨id, entity⟩ hmem
  exact h _ _ ((OrderedMap.mem_entries_iff ..).1 hmem)

end Store
end CodeSurvey
