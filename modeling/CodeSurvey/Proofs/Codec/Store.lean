import CodeSurvey.Codec.Graph
import CodeSurvey.Proofs.Json.Field
import CodeSurvey.Proofs.Store
import Mathlib.Data.List.Forall2

/-!
# Which stores are read

A store is written as an object of entities under their keys, and each entity tells its own identity
as well.  The reader keeps the key and does not compare it with the identity.  This file says what
is found in a store that has been read, and when its entities are stored under their own identities.

## Main results

* `Json.get?_of_entries`: the entries of an object, of which the last one of a key counts.
* `Store.exists_members_of_decode`: the lookups of a store that has been read.
* `Store.keyed_iff_of_decode`: a store is read as keyed exactly if it is written so.
-/

namespace CodeSurvey

open Json (Decoder Record bind_eq_ok_iff fieldAt?)

/-! ## The entries of objects -/

namespace Json

variable {α β : Type} {decode : Decoder α}

/-- Reading item by item leads to a result for each of them. -/
theorem forall₂_of_mapM {read : α → Except DecodeError β} {items : List α} {results : List β}
    (h : items.mapM read = .ok results) :
    List.Forall₂ (fun item result => read item = .ok result) items results := by
  induction items generalizing results with
  | nil =>
      cases h
      exact .nil
  | cons item rest ih =>
      rw [List.mapM_cons] at h
      obtain ⟨result, hresult, h⟩ := bind_eq_ok_iff.1 h
      obtain ⟨others, hothers, h⟩ := bind_eq_ok_iff.1 h
      cases h
      exact .cons hresult (ih hothers)

/-- Whatever is related item by item has a counterpart for each of its members. -/
theorem exists_of_forall₂ {γ δ : Type} {R : γ → δ → Prop} {xs : List γ} {ys : List δ}
    (h : List.Forall₂ R xs ys) {x : γ} (hx : x ∈ xs) : ∃ y, R x y := by
  induction h with
  | nil => cases hx
  | cons hfirst _ ih =>
      rcases List.mem_cons.1 hx with rfl | hrest
      · exact ⟨_, hfirst⟩
      · exact ih hrest

/-- The entry that is read of a field. -/
def readField (decode : Decoder α) (field : String × Json) : Except DecodeError (String × α) :=
  (decode field.2).map fun x => (field.1, x)

theorem readField_eq_ok_iff {field : String × Json} {entry : String × α} :
    readField decode field = .ok entry ↔ entry.1 = field.1 ∧ decode field.2 = .ok entry.2 := by
  rw [readField]
  cases decode field.2 with
  | error e => exact ⟨nofun, fun h => nomatch h.2⟩
  | ok x =>
      obtain ⟨key, y⟩ := entry
      simp [Except.map, eq_comm]

/-- The first entry with a key is read of the first field with this name. -/
theorem find?_of_forall₂ {fields : List (String × Json)} {entries : List (String × α)}
    (h : List.Forall₂ (fun field entry => readField decode field = .ok entry) fields entries)
    (key : String) (x : α) :
    (entries.find? fun entry => key = entry.1).map (·.2) = some x ↔
      ∃ content, fields.lookup key = some content ∧ decode content = .ok x := by
  induction h with
  | nil => simp
  | @cons field entry fields entries hfield _ ih =>
      obtain ⟨name, content⟩ := field
      obtain ⟨hname, hcontent⟩ := readField_eq_ok_iff.1 hfield
      simp only at hname hcontent
      rw [List.lookup_cons, List.find?_cons, hname]
      by_cases hkey : key = name
      · subst hkey
        simp [hcontent]
      · rw [decide_eq_false hkey, beq_false_of_ne hkey]
        exact ih

/-- What is found in the entries of an object has been read of the last field with this name, and
every field has been read. -/
theorem get?_of_entries {fields : List (String × Json)} {entries : OrderedMap String α}
    (h : Decoder.entries decode (.object fields) = .ok entries) :
    (∀ key x, entries.get? key = some x ↔
      ∃ content, fields.reverse.lookup key = some content ∧ decode content = .ok x) ∧
    ∀ field ∈ fields, ∃ x, decode field.2 = .ok x := by
  change (fields.mapM (readField decode)).map OrderedMap.ofList = _ at h
  cases hread : fields.mapM (readField decode) with
  | error e =>
      rw [hread] at h
      cases h
  | ok pairs =>
      rw [hread] at h
      cases h
      have hpairs := forall₂_of_mapM hread
      refine ⟨fun key x => ?_, fun field hfield => ?_⟩
      · rw [OrderedMap.get?_ofList]
        exact find?_of_forall₂ (List.forall₂_reverse_iff.2 hpairs) key x
      · obtain ⟨entry, hentry⟩ := exists_of_forall₂ hpairs hfield
        exact ⟨entry.2, (readField_eq_ok_iff.1 hentry).2⟩

end Json

/-! ## Entities and stores -/

/-- The fields of an entity. -/
def Entity.fieldNames : List String :=
  ["id", "kind", "summary_text", "summary_details", "embedding", "structural", "quality_score"]

/-- An entity has the identity that it is written with. -/
theorem Entity.id_of_decode {value : Json} {entity : Entity}
    (h : Entity.decode value = .ok entity) :
    fieldAt? Entity.fieldNames value "id" = some (.text entity.id.text) := by
  obtain ⟨record, hrecord, h⟩ := bind_eq_ok_iff.1 h
  obtain ⟨structural, _, h⟩ := bind_eq_ok_iff.1 h
  obtain ⟨id, hid, h⟩ := bind_eq_ok_iff.1 h
  simp only [bind_eq_ok_iff] at h
  obtain ⟨_, _, _, _, _, _, _, _, _, _, h⟩ := h
  cases h
  obtain ⟨content, hcontent, hid⟩ := Record.exists_of_required hrecord (by decide) hid
  rw [Entity.fieldNames, hcontent]
  cases content with
  | text s =>
      cases hid
      rfl
  | _ => cases hid

namespace Store

variable {value : Json} {store : Store}

/-- The fields of a store. -/
def fieldNames : List String := ["entities", "edges"]

/-- The entities of a map of texts, under the identities that these texts are. -/
def entriesOfNames (entries : OrderedMap String Entity) : OrderedMap EntityId Entity :=
  .ofList (entries.entries.map fun (key, entity) => (⟨key⟩, entity))

theorem get?_entriesOfNames (entries : OrderedMap String Entity) (key : String) (entity : Entity) :
    (entriesOfNames entries).get? ⟨key⟩ = some entity ↔ entries.get? key = some entity := by
  have hlisted : ∀ other, (entriesOfNames entries).get? ⟨key⟩ = some other →
      entries.get? key = some other := by
    intro other hother
    obtain ⟨entry, hentry, hsame⟩ := List.mem_map.1 (OrderedMap.mem_of_get?_ofList hother)
    cases hsame
    exact (OrderedMap.mem_entries_iff ..).1 hentry
  refine ⟨hlisted entity, fun h => ?_⟩
  cases hfound : (entriesOfNames entries).get? ⟨key⟩ with
  | none =>
      rw [entriesOfNames, OrderedMap.get?_ofList, Option.map_eq_none_iff,
        List.find?_eq_none] at hfound
      have hentry := List.mem_map_of_mem (f := fun (key, entity) => (EntityId.mk key, entity))
        ((OrderedMap.mem_entries_iff ..).2 h)
      exact absurd (decide_eq_true rfl) (hfound _ (List.mem_reverse.2 hentry))
  | some other => exact (hlisted other hfound).symm.trans h

/-- What is found in a store that has been read is the entity that is written last under the key, and
every entity that is written has been read. -/
theorem exists_members_of_decode (h : Store.decode value = .ok store) :
    ∃ members, fieldAt? fieldNames value "entities" = some (.object members) ∧
      (∀ key entity, store.get? ⟨key⟩ = some entity ↔
        ∃ content, members.reverse.lookup key = some content ∧
          Entity.decode content = .ok entity) ∧
      ∀ member ∈ members, ∃ entity, Entity.decode member.2 = .ok entity := by
  obtain ⟨record, hrecord, h⟩ := bind_eq_ok_iff.1 h
  obtain ⟨entries, hentries, h⟩ := bind_eq_ok_iff.1 h
  obtain ⟨edges, _, h⟩ := bind_eq_ok_iff.1 h
  cases h
  obtain ⟨content, hcontent, hentries⟩ := Record.exists_of_required hrecord (by decide) hentries
  cases content with
  | object members =>
      obtain ⟨hget, hread⟩ := Json.get?_of_entries hentries
      refine ⟨members, hcontent, fun key entity => ?_, hread⟩
      exact (get?_entriesOfNames entries key entity).trans (hget key entity)
  | _ => cases hentries

/-- Whether a store is written with every entity under its own identity.  Of the entities under one
key the last one counts. -/
def WrittenUnderOwnIds (value : Json) : Prop :=
  ∀ members, fieldAt? fieldNames value "entities" = some (.object members) →
    ∀ key content, members.reverse.lookup key = some content →
      fieldAt? Entity.fieldNames content "id" = some (.text key)

theorem mem_of_lookup_eq_some {members : List (String × Json)} {key : String} {content : Json}
    (h : members.lookup key = some content) : (key, content) ∈ members := by
  obtain ⟨front, back, rfl, _⟩ := List.lookup_eq_some_iff.1 h
  simp

/-- A store is read as keyed exactly if it is written with every entity under its own identity. -/
theorem keyed_iff_of_decode (h : Store.decode value = .ok store) :
    store.Keyed ↔ WrittenUnderOwnIds value := by
  obtain ⟨members, hmembers, hget, hread⟩ := exists_members_of_decode h
  constructor
  · intro hkeyed members' hmembers' key content hcontent
    rw [hmembers] at hmembers'
    cases hmembers'
    obtain ⟨entity, hentity⟩ :=
      hread _ (List.mem_reverse.1 (mem_of_lookup_eq_some hcontent))
    rw [Entity.id_of_decode hentity, hkeyed _ _ ((hget key entity).2 ⟨content, hcontent, hentity⟩)]
  · rintro hwritten ⟨key⟩ entity hfound
    obtain ⟨content, hcontent, hentity⟩ := (hget key entity).1 hfound
    have hid := hwritten members hmembers key content hcontent
    rw [Entity.id_of_decode hentity] at hid
    cases hid
    rfl

end Store
end CodeSurvey
