import CodeSurvey.Entity

/-!
# The entity store

The store is the graph that a survey builds: entities under keys, in the order of the keys, and a
list of edges in the order of their insertion, in which an edge may occur more than once.

## Main definitions

* `Store.upsert`: stores an entity under its own identity.
* `Store.danglingEdges`: the edges with an end that is not a stored key.
-/

namespace CodeSurvey

/-- Entities by key, and edges in order of insertion. -/
structure Store where
  entries : OrderedMap EntityId Entity
  edges : List Edge
  deriving BEq, Inhabited

namespace Store

/-- The store without entities and edges. -/
def empty : Store := ⟨.empty, []⟩

/-- The number of entities. -/
def size (store : Store) : Nat := store.entries.size

/-- Whether there is no entity. -/
def isEmpty (store : Store) : Bool := store.entries.isEmpty

/-- The keys in ascending order. -/
def ids (store : Store) : List EntityId := store.entries.keys

/-- The entities in the order of their keys. -/
def entities (store : Store) : List Entity := store.entries.values

/-- The entity under a key. -/
def get? (store : Store) (id : EntityId) : Option Entity := store.entries.get? id

/-- Whether there is an entity under a key. -/
def contains (store : Store) (id : EntityId) : Bool := store.entries.contains id

/-- The store with the entity under its own identity, in place of an earlier one. -/
def upsert (store : Store) (entity : Entity) : Store :=
  { store with entries := store.entries.insert entity.id entity }

/-- The store with the entity under a key, if there is one, changed. -/
def modify (store : Store) (id : EntityId) (change : Entity → Entity) : Store :=
  { store with entries := store.entries.modify id change }

/-- The store with every entity changed. -/
def mapEntities (store : Store) (change : Entity → Entity) : Store :=
  { store with entries := store.entries.mapValues fun _ => change }

/-! ## Edges -/

/-- The store with one more edge at the end. -/
def pushEdge (store : Store) (edge : Edge) : Store :=
  { store with edges := store.edges ++ [edge] }

/-- The store with more edges at the end. -/
def extendEdges (store : Store) (edges : List Edge) : Store :=
  { store with edges := store.edges ++ edges }

/-- The store with only the edges that pass a test. -/
def retainEdges (store : Store) (keep : Edge → Bool) : Store :=
  { store with edges := store.edges.filter keep }

/-- The edges that start at an entity. -/
def edgesFrom (store : Store) (id : EntityId) : List Edge :=
  store.edges.filter fun edge => edge.source = id

/-- Whether an end of the edge is not a stored key. -/
def isDangling (store : Store) (edge : Edge) : Bool :=
  !store.contains edge.source || !store.contains edge.target

/-- The edges with an end that is not a stored key. -/
def danglingEdges (store : Store) : List Edge := store.edges.filter store.isDangling

@[simp]
theorem upsert_edges (store : Store) (entity : Entity) : (store.upsert entity).edges = store.edges :=
  rfl

@[simp]
theorem modify_edges (store : Store) (id : EntityId) (change : Entity → Entity) :
    (store.modify id change).edges = store.edges :=
  rfl

@[simp]
theorem modify_ids (store : Store) (id : EntityId) (change : Entity → Entity) :
    (store.modify id change).ids = store.ids :=
  OrderedMap.keys_modify ..

@[simp]
theorem extendEdges_entries (store : Store) (edges : List Edge) :
    (store.extendEdges edges).entries = store.entries :=
  rfl

@[simp]
theorem retainEdges_entries (store : Store) (keep : Edge → Bool) :
    (store.retainEdges keep).entries = store.entries :=
  rfl

end Store

end CodeSurvey
