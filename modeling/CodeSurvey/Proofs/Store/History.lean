import CodeSurvey.Json.Reader
import CodeSurvey.Proofs.Codec.Store
import CodeSurvey.Proofs.Fusion.Courses
import CodeSurvey.Proofs.Gate.Completion
import Mathlib.Logic.Relation

/-!
# The history of a store

A store is empty or read at first, and then it is changed by the operations on stores, by fusions and
by evaluations.  None of these puts an entity under a key that is not its identity, so an entity is
misfiled only if it has been read as such and has not been replaced since.

## Main results

* `Store.Operation`, `Store.History`: one change of a store, and many.
* `Store.Operation.get?`: what one change leaves under a key.
* `Store.History.get?`: what a history leaves under a key.
* `Store.keyed_of_history`: the stores whose entities are stored under their own identities.
-/

namespace CodeSurvey

/-! ## Scores that are written -/

namespace Evaluator

/-- The score of an entity may be another one. -/
def Rescored (old entity : Entity) : Prop := ∃ score, entity = withScore score old

theorem Rescored.refl (entity : Entity) : Rescored entity entity := ⟨entity.score, rfl⟩

theorem Rescored.trans {first second third : Entity} (h : Rescored first second)
    (h' : Rescored second third) : Rescored first third := by
  obtain ⟨score, rfl⟩ := h
  obtain ⟨score', rfl⟩ := h'
  exact ⟨score', rfl⟩

/-- A score does not rename an entity. -/
theorem Rescored.id_eq {old entity : Entity} (h : Rescored old entity) : entity.id = old.id := by
  obtain ⟨score, rfl⟩ := h
  rfl

/-- Whatever scores are written, what is found under a key had been there with some score. -/
theorem rescored_of_foldl {α : Type} (idOf : α → EntityId) (scoreOf : α → Float32) (xs : List α)
    (store : Store) {key : EntityId} {entity : Entity}
    (h : (xs.foldl (fun store x => store.modify (idOf x) (withScore (scoreOf x))) store).get? key =
      some entity) :
    ∃ old, store.get? key = some old ∧ Rescored old entity := by
  induction xs generalizing store with
  | nil => exact ⟨entity, h, .refl entity⟩
  | cons x rest ih =>
      obtain ⟨middle, hmiddle, hentity⟩ := ih _ h
      rw [Store.get?_modify] at hmiddle
      split at hmiddle
      · obtain ⟨old, hold, rfl⟩ := Option.map_eq_some_iff.1 hmiddle
        exact ⟨old, hold, Rescored.trans ⟨scoreOf x, rfl⟩ hentity⟩
      · exact ⟨middle, hmiddle, hentity⟩

/-- What is found after scores have been written was there before, perhaps with another score. -/
theorem rescored_of_writeScores {store : Store} {fresh : List (EntityId × Float32)}
    {missing : TargetSet} {key : EntityId} {entity : Entity}
    (h : (writeScores store fresh missing).get? key = some entity) :
    ∃ old, store.get? key = some old ∧ Rescored old entity := by
  obtain ⟨middle, hmiddle, hentity⟩ := rescored_of_foldl id (fun _ => 0) missing.keys _ h
  obtain ⟨old, hold, hmiddle⟩ := rescored_of_foldl Prod.fst Prod.snd fresh store hmiddle
  exact ⟨old, hold, hmiddle.trans hentity⟩

variable {evaluator : Evaluator} {store scored : Store} {scope : Option TargetSet}
  {retryCount : UInt32} {events : List Event} {evaluation : Evaluation}
  {arrive : List (EntityId × Float32) → List (EntityId × Float32)}

/-- An evaluation changes nothing but scores, in whatever order they arrive and whether or not the
entities are stored under their own identities. -/
theorem rescored_of_evaluateArriving
    (h : (evaluator.evaluateArriving arrive store scope retryCount).Course events
      (some (scored, evaluation))) {key : EntityId} {entity : Entity}
    (hentity : scored.get? key = some entity) :
    ∃ old, store.get? key = some old ∧ Rescored old entity := by
  rw [evaluateArriving] at h
  split at h
  · obtain ⟨_, hresult⟩ := Plan.course_done_iff.1 h
    cases hresult
    exact ⟨entity, hentity, .refl entity⟩
  · rw [Plan.course_bind_iff] at h
    rcases h with ⟨fresh, _, _, _, hrest, _⟩ | ⟨_, ⟨⟩⟩
    rw [Plan.course_bind_iff] at hrest
    rcases hrest with ⟨decision, _, _, _, hlast, _⟩ | ⟨_, ⟨⟩⟩
    obtain ⟨_, hresult⟩ := Plan.course_done_iff.1 hlast
    cases hresult
    exact rescored_of_writeScores hentity

end Evaluator

namespace Store

open Evaluator (Rescored)

variable {start store next : Store} {key : EntityId} {entity : Entity}

/-! ## One change -/

/-- One change of a store: an operation on stores, a fusion or an evaluation that ends.  The scores of
an evaluation arrive in an order in which its concurrent calls may complete. -/
inductive Operation : Store → Store → Prop where
  | upsert (store : Store) (entity : Entity) : Operation store (store.upsert entity)
  | pushEdge (store : Store) (edge : Edge) : Operation store (store.pushEdge edge)
  | extendEdges (store : Store) (edges : List Edge) : Operation store (store.extendEdges edges)
  | retainEdges (store : Store) (keep : Edge → Bool) : Operation store (store.retainEdges keep)
  | fuse {ladder : Ladder} {ensembleMode : Bool} {inputs : FusionInputs}
      {targets : Option TargetSet} {events : List Event} {store fused : Store}
      {report : FusionReport}
      (h : (Fusion.fuse ladder ensembleMode inputs targets store).Course events
        (some (fused, report))) :
      Operation store fused
  | evaluate {evaluator : Evaluator}
      {arrive : List (EntityId × Float32) → List (EntityId × Float32)}
      {scope : Option TargetSet} {retryCount : UInt32} {events : List Event}
      {store scored : Store} {evaluation : Evaluation}
      (harrive : ∀ jobs, Pool.Completes (max evaluator.maxConcurrentCalls 1) jobs (arrive jobs))
      (h : (evaluator.evaluateArriving arrive store scope retryCount).Course events
        (some (scored, evaluation))) :
      Operation store scored

/-- What a fusion leaves under a key is stored under its own identity or has been there before. -/
theorem get?_of_fuse {ladder : Ladder} {ensembleMode : Bool} {inputs : FusionInputs}
    {targets : Option TargetSet} {events : List Event} {fused : Store} {report : FusionReport}
    (h : (Fusion.fuse ladder ensembleMode inputs targets store).Course events
      (some (fused, report))) (hentity : fused.get? key = some entity) :
    entity.id = key ∨ store.get? key = some entity := by
  obtain ⟨steps, _, hresult⟩ := Fusion.course_fuse h
  have hfused := congrArg Prod.fst (Option.some.inj hresult)
  dsimp only at hfused
  rw [hfused, Fusion.merge_get?, get?_upsertAll, Option.or_eq_some_iff] at hentity
  rcases hentity with hfresh | ⟨_, hbase⟩
  · have hid := List.find?_some hfresh
    exact .inl (of_decide_eq_true hid).symm
  · cases targets with
    | none => cases hbase
    | some set => exact .inr hbase

/-- What one change leaves under a key is stored under its own identity, or has been there before
with some score. -/
theorem Operation.get? (h : Operation store next) (hentity : next.get? key = some entity) :
    entity.id = key ∨ ∃ old, store.get? key = some old ∧ Rescored old entity := by
  cases h with
  | upsert _ fresh =>
      rw [get?_upsert] at hentity
      split at hentity
      · rename_i hkey
        cases hentity
        exact .inl hkey.symm
      · exact .inr ⟨entity, hentity, .refl entity⟩
  | pushEdge | extendEdges | retainEdges => exact .inr ⟨entity, hentity, .refl entity⟩
  | fuse hfuse => exact (get?_of_fuse hfuse hentity).imp_right fun hold => ⟨entity, hold, .refl entity⟩
  | evaluate _ hevaluate => exact .inr (Evaluator.rescored_of_evaluateArriving hevaluate hentity)

/-! ## Many changes -/

/-- Whether a store may come of another one by changes. -/
abbrev History : Store → Store → Prop := Relation.ReflTransGen Operation

/-- What a history leaves under a key is stored under its own identity, or has been there at first
with some score. -/
theorem History.get? (h : History start store) (hentity : store.get? key = some entity) :
    entity.id = key ∨ ∃ old, start.get? key = some old ∧ Rescored old entity := by
  induction h generalizing entity with
  | refl => exact .inr ⟨entity, hentity, .refl entity⟩
  | tail _ hstep ih =>
      rcases hstep.get? hentity with hid | ⟨middle, hmiddle, hrescored⟩
      · exact .inl hid
      · rcases ih hmiddle with hid | ⟨old, hold, hmiddle⟩
        · exact .inl (hrescored.id_eq.trans hid)
        · exact .inr ⟨old, hold, hmiddle.trans hrescored⟩

/-- Changes keep entities under their own identities. -/
theorem History.keyed (h : History start store) (hstart : start.Keyed) : store.Keyed := by
  intro key entity hentity
  rcases h.get? hentity with hid | ⟨old, hold, hrescored⟩
  · exact hid
  · exact hrescored.id_eq.trans (hstart key old hold)

/-! ## Texts with one entity -/

instance decidableKeyed (store : Store) : Decidable store.Keyed :=
  decidable_of_iff (∀ entry ∈ store.entries.entries, entry.2.id = entry.1)
    ⟨fun h id entity hentity => h (id, entity) ((OrderedMap.mem_entries_iff ..).2 hentity),
      fun h _ hentry => h _ _ ((OrderedMap.mem_entries_iff ..).1 hentry)⟩

/-- The text of a store with one entity under a key. -/
def oneEntityText (key id : String) : String :=
  "\x7b\"entities\": \x7b\"" ++ key ++ "\": \x7b\"id\": \"" ++ id ++ "\", \"kind\": \"file\", " ++
    "\"summary_text\": \"\", \"structural\": \x7b\"complexity\": 1, \"label\": \"\"\x7d, " ++
    "\"quality_score\": 0\x7d\x7d, \"edges\": []\x7d"

/-- A text is read as a store with a property if its evaluation shows so. -/
theorem exists_read_of_any {text : String} {property : Store → Prop} [DecidablePred property]
    (h : ((Json.read? text).bind fun value => (Store.decode value).toOption).any
      (fun store => decide (property store)) = true) :
    ∃ value start, Json.read? text = some value ∧ Store.decode value = .ok start ∧
      property start := by
  obtain ⟨start, hstart, hproperty⟩ := (Option.any_eq_true ..).1 h
  obtain ⟨value, hvalue, hdecode⟩ := Option.bind_eq_some_iff.1 hstart
  cases hresult : Store.decode value with
  | error e =>
      rw [hresult] at hdecode
      cases hdecode
  | ok other =>
      rw [hresult] at hdecode
      cases hdecode
      exact ⟨value, start, hvalue, hresult, of_decide_eq_true hproperty⟩

/-- A store that is read may be keyed. -/
theorem exists_read_keyed : ∃ value start, Json.read? (oneEntityText "a.py" "a.py") = some value ∧
    Store.decode value = .ok start ∧ start.Keyed :=
  exists_read_of_any (by decide +kernel)

/-- A store that is read may have an entity under another key than its identity. -/
theorem exists_read_misfiled : ∃ value start,
    Json.read? (oneEntityText "a.py" "b.py") = some value ∧
      Store.decode value = .ok start ∧ ¬ start.Keyed :=
  exists_read_of_any (by decide +kernel)

/-! ## Where entities are found -/

/-- Whether every entity is stored under its own identity, and is found there. -/
structure FoundById (store : Store) : Prop where
  keyed : store.Keyed
  get?_eq : ∀ entity ∈ store.entities, store.get? entity.id = some entity

/-- Every entity is found by its identity exactly if the store is keyed. -/
theorem foundById_iff : store.FoundById ↔ store.Keyed :=
  ⟨FoundById.keyed, fun h => ⟨h, fun entity => (h.mem_entities_iff entity).1⟩⟩

/-- Whether a store can be obtained: it comes of the empty one, or of one that has been read of a
text, by changes. -/
def Obtained (store : Store) : Prop :=
  History .empty store ∨
    ∃ text value start, Json.read? text = some value ∧ Store.decode value = .ok start ∧
      History start store

/-- The stores that a history starts from: the empty one, and those that are read of a value. -/
inductive Origin : Option Json → Store → Prop where
  | empty : Origin none .empty
  | read {value : Json} {start : Store} (h : Store.decode value = .ok start) :
      Origin (some value) start

/-- Whether no entity is written under a key that is not its identity, if anything is written. -/
def WellWritten (origin : Option Json) : Prop := ∀ value ∈ origin, WrittenUnderOwnIds value

/-- A store that was read is keyed exactly if it was written with entities under their own
identities. -/
theorem Origin.keyed_iff {origin : Option Json} (h : Origin origin start) :
    start.Keyed ↔ WellWritten origin := by
  cases h with
  | empty => exact iff_of_true keyed_empty nofun
  | read h => simpa [WellWritten] using keyed_iff_of_decode h

/-- A store that comes of the empty one by changes has all its entities under their own identities,
and so has one that has been read at first if it is written so.  Otherwise the misfiled entities are
among those that have been read, with other scores at most. -/
theorem keyed_of_history {origin : Option Json} (hstart : Origin origin start)
    (hhistory : History start store) :
    (WellWritten origin → store.FoundById) ∧ (start.FoundById ↔ WellWritten origin) ∧
      ∀ key entity, store.get? key = some entity → entity.id ≠ key →
        ∃ old, start.get? key = some old ∧ Rescored old entity := by
  refine ⟨fun hwritten => ?_, foundById_iff.trans hstart.keyed_iff, fun key entity => ?_⟩
  · exact foundById_iff.2 (hhistory.keyed (hstart.keyed_iff.2 hwritten))
  · exact fun hentity hne => (hhistory.get? hentity).resolve_left hne

/-- A store that is built up, one that is read with its entity under its own identity, and one that is
read with a misfiled entity, which stays where it is. -/
theorem keyed_of_history_one_entity :
    (empty.upsert (.new ⟨"a.py"⟩ .file)).FoundById ∧
    (∃ value start, Json.read? (oneEntityText "a.py" "a.py") = some value ∧
      Store.decode value = .ok start ∧ (start.retainEdges fun _ => false).FoundById) ∧
    ∃ value start, Json.read? (oneEntityText "a.py" "b.py") = some value ∧
      Store.decode value = .ok start ∧ ¬ WrittenUnderOwnIds value ∧
      ∃ key entity old, (start.retainEdges fun _ => false).get? key = some entity ∧ entity.id ≠ key ∧
        start.get? key = some old ∧ Rescored old entity := by
  refine ⟨(keyed_of_history .empty (.single (.upsert ..))).1 nofun, ?_, ?_⟩
  · obtain ⟨value, start, hread, hstart, hkeyed⟩ := exists_read_keyed
    obtain ⟨hfound, hiff, _⟩ := keyed_of_history (.read hstart) (.single (.retainEdges start _))
    exact ⟨value, start, hread, hstart, hfound (hiff.1 (foundById_iff.2 hkeyed))⟩
  · obtain ⟨value, start, hread, hstart, hkeyed⟩ := exists_read_misfiled
    obtain ⟨_, _, hleft⟩ :=
      keyed_of_history (.read hstart) (.single (.retainEdges start fun _ => false))
    obtain ⟨key, entity, hentity, hne⟩ :
        ∃ key entity, start.get? key = some entity ∧ entity.id ≠ key := by
      simpa [Keyed] using hkeyed
    obtain ⟨old, hold, hrescored⟩ := hleft key entity hentity hne
    exact ⟨value, start, hread, hstart, mt (keyed_iff_of_decode hstart).2 hkeyed, key, entity, old,
      hentity, hne, hold, hrescored⟩

/-- Not every store that can be obtained has its entities under their own identities. -/
theorem misfiled_entity_obtained : ¬ ∀ store, Obtained store → store.FoundById := by
  intro h
  obtain ⟨value, start, hread, hstart, hkeyed⟩ := exists_read_misfiled
  exact hkeyed (h start (.inr ⟨_, value, start, hread, hstart, .refl⟩)).keyed

end Store
end CodeSurvey
