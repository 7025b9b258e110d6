import CodeSurvey.Proofs.Linking.Similarity
import CodeSurvey.Proofs.Survey.Rounds

/-!
# Links between similar entities

A pass compares vectors: the fresh ones of entities in scope, and the stored ones of the others.
Two entities are then linked from the smaller identity to the greater one, but only if the smaller
one is in scope.  So a target whose vector arrives on a selective pass is not linked to a similar
entity with a smaller identity that is no target.

## Main results

* `Survey.similar_links`: the links between similar entities after every fusion, and the similar
  entities that are certainly linked.
* `Survey.similar_links_incomplete`: not all similar entities are linked.
-/

namespace CodeSurvey
namespace Survey

section Similarity

variable {setup : Setup} {snapshot : Snapshot} {run : Run} {progress : Progress}
  {events : List Event} {replies : AnalysisReplies}

/-! ## Compared vectors -/

/-- The vector with which an entity is compared on a pass: the fresh one of an entity in scope, and
the stored one of another entity. -/
def comparedVector (setup : Setup) (snapshot : Snapshot) (progress : Progress)
    (replies : AnalysisReplies) (id : EntityId) : Option Vector32 :=
  if inScope progress.run.targets id then
    Linking.vectorIn (inputs setup snapshot progress replies).embeddings id
  else ((progress.store.get? id).map (·.embedding)).filter fun vector => !vector.isEmpty

/-- The embeddings of a pass are those of one reply which are in scope. -/
theorem embeddings_eq (setup : Setup) (snapshot : Snapshot) (progress : Progress)
    (replies : AnalysisReplies) :
    (inputs setup snapshot progress replies).embeddings = [] ∨
      ∃ records, replies.embeddings = .ok records ∧
        (inputs setup snapshot progress replies).embeddings =
          records.filter fun record => inScope progress.run.targets record.id := by
  simp only [inputs, analysis, Stages.embed]
  split
  · exact .inl rfl
  · cases hreply : replies.embeddings with
    | ok records => exact .inr ⟨records, rfl, rfl⟩
    | failed error => exact .inl rfl
    | timedOut => exact .inl rfl
    | panicked => exact .inl rfl

/-- A pass uses no fresh vector from outside its scope. -/
theorem inScope_of_mem_embeddings {record : EmbeddingRecord}
    (h : record ∈ (inputs setup snapshot progress replies).embeddings) :
    inScope progress.run.targets record.id = true := by
  rcases embeddings_eq setup snapshot progress replies with hempty | ⟨records, _, hrecords⟩
  · rw [hempty] at h
    cases h
  · rw [hrecords] at h
    exact (List.mem_filter.1 h).2

/-- The stored vectors with which a selective pass compares. -/
def storedRecords (targets : TargetSet) (store : Store) : List EmbeddingRecord :=
  ((Stages.untouched targets store).filter Entity.hasEmbedding).map fun entity =>
    ⟨entity.id, entity.embedding⟩

/-- The stored vectors that are compared are those of entities that are no targets and have one. -/
theorem mem_storedRecords_iff {targets : TargetSet} {store : Store} (hkeyed : store.Keyed)
    (id : EntityId) (vector : Vector32) :
    ⟨id, vector⟩ ∈ storedRecords targets store ↔
      targets.contains id = false ∧
        ((store.get? id).map (·.embedding)).filter (fun vector => !vector.isEmpty) =
          some vector := by
  simp only [storedRecords, Stages.untouched, List.mem_map, List.mem_filter,
    hkeyed.mem_entities_iff, EmbeddingRecord.mk.injEq, Option.filter_eq_some_iff,
    Option.map_eq_some_iff, Entity.hasEmbedding, Bool.not_eq_true']
  constructor
  · rintro ⟨entity, ⟨⟨hentity, huntouched⟩, hembedding⟩, rfl, rfl⟩
    exact ⟨huntouched, ⟨entity, hentity, rfl⟩, hembedding⟩
  · rintro ⟨huntouched, ⟨entity, hentity, rfl⟩, hembedding⟩
    have hid := hkeyed id entity hentity
    refine ⟨entity, ⟨⟨?_, ?_⟩, hembedding⟩, hid, rfl⟩
    · rw [hid]
      exact hentity
    · rw [hid]
      exact huntouched

/-- What a pass infers from. -/
def comparedRecords (setup : Setup) (snapshot : Snapshot) (progress : Progress)
    (replies : AnalysisReplies) : List EmbeddingRecord :=
  (inputs setup snapshot progress replies).embeddings ++
    match progress.run.targets with
    | none => []
    | some targets => storedRecords targets progress.store

/-- The identities whose names a pass compares. -/
def comparedIds (setup : Setup) (snapshot : Snapshot) (progress : Progress)
    (replies : AnalysisReplies) : List EntityId :=
  (inputs setup snapshot progress replies).summaries.map (·.id) ++
    (inputs setup snapshot progress replies).graph.nodes.map (·.id) ++
      match progress.run.targets with
      | none => []
      | some targets => (Stages.untouched targets progress.store).map (·.id)

/-- The links of a pass are inferred from what it compares, with or without targets. -/
theorem logicalEdges_eq (setup : Setup) (snapshot : Snapshot) (progress : Progress)
    (replies : AnalysisReplies) :
    (inputs setup snapshot progress replies).logicalEdges =
      Linking.infer setup.collaborators.similarity setup.settings.policy.similarityLinkThreshold
        (comparedIds setup snapshot progress replies)
        (comparedRecords setup snapshot progress replies) := by
  rw [comparedRecords, comparedIds]
  cases htargets : progress.run.targets with
  | none =>
      simp only [inputs, Stages.inferLinks, htargets, List.append_nil]
  | some targets =>
      simp only [inputs, Stages.inferLinks, htargets]
      rfl

/-- All that is inferred is logical. -/
theorem kind_of_mem_logicalEdges {edge : Edge}
    (h : edge ∈ (inputs setup snapshot progress replies).logicalEdges) : edge.kind = .logical := by
  rw [logicalEdges_eq] at h
  exact Linking.kind_of_mem_infer h

/-- An entity that is no target is compared by its stored vector. -/
theorem vectorIn_storedRecords {targets : TargetSet} {store : Store} (hkeyed : store.Keyed)
    {id : EntityId} (hid : targets.contains id = false) :
    Linking.vectorIn (storedRecords targets store) id =
      ((store.get? id).map (·.embedding)).filter fun vector => !vector.isEmpty := by
  cases hstored : ((store.get? id).map (·.embedding)).filter fun vector => !vector.isEmpty with
  | none =>
      apply Linking.vectorIn_eq_none
      intro vector hmem
      rw [mem_storedRecords_iff hkeyed, hstored] at hmem
      cases hmem.2
  | some vector =>
      have hne : vector ≠ [] := by
        simpa using (Option.filter_eq_some_iff.1 hstored).2
      refine Linking.vectorIn_eq_some ?_ ((mem_storedRecords_iff hkeyed id vector).2 ⟨hid, hstored⟩)
        hne
      intro other hother
      rw [mem_storedRecords_iff hkeyed, hstored, Option.some.injEq] at hother
      exact hother.2.symm

/-- The vector that counts among the compared ones. -/
theorem vectorIn_comparedRecords (hkeyed : progress.store.Keyed) (id : EntityId) :
    Linking.vectorIn (comparedRecords setup snapshot progress replies) id =
      comparedVector setup snapshot progress replies id := by
  rw [comparedRecords, comparedVector, Linking.vectorIn_append]
  cases htargets : progress.run.targets with
  | none => exact Option.or_none
  | some targets =>
      rw [inScope_some]
      cases hid : targets.contains id with
      | true =>
          have hstored : Linking.vectorIn (storedRecords targets progress.store) id = none := by
            apply Linking.vectorIn_eq_none
            intro vector hmem
            rw [mem_storedRecords_iff hkeyed, hid] at hmem
            cases hmem.1
          simp only [hstored, Option.or_none, if_true]
      | false =>
          have hfresh : Linking.vectorIn (inputs setup snapshot progress replies).embeddings id =
              none := by
            apply Linking.vectorIn_eq_none
            intro vector hmem
            have hscope := inScope_of_mem_embeddings hmem
            rw [htargets, inScope_some, hid] at hscope
            cases hscope
          simp only [hfresh, Option.none_or, vectorIn_storedRecords hkeyed hid, Bool.false_eq_true,
            if_false]

/-! ## The links of a pass -/

/-- The edge that says that two entities are similar. -/
def similarEdge (a b : EntityId) : Edge := .logical a b Linking.similarRelation

/-- Whether a pass links two entities: the smaller one is in scope, and the vectors with which they
are compared are similar enough. -/
def Links (setup : Setup) (snapshot : Snapshot) (progress : Progress) (replies : AnalysisReplies)
    (a b : EntityId) : Prop :=
  compare a b = .lt ∧ inScope progress.run.targets a = true ∧
    ∃ v w, comparedVector setup snapshot progress replies a = some v ∧
      comparedVector setup snapshot progress replies b = some w ∧
      setup.collaborators.similarity v w ≥ setup.settings.policy.similarityLinkThreshold

/-- After a fusion two entities are linked if the pass links them or a selective pass found them
linked. -/
theorem similarEdge_mem_merged_iff (hkeyed : progress.store.Keyed) (steps : List Fusion.Step)
    (a b : EntityId) :
    similarEdge a b ∈ (merged setup snapshot progress replies steps).1.edges ↔
      Links setup snapshot progress replies a b ∨
        (progress.run.targets ≠ none ∧ similarEdge a b ∈ progress.store.edges) := by
  rw [merged, similarEdge, Fusion.logical_mem_merge_iff _ fun edge => kind_of_mem_logicalEdges,
    logicalEdges_eq, Linking.mem_infer_iff, ← similarEdge, Fusion.mem_base_edges_iff, Links]
  simp only [vectorIn_comparedRecords hkeyed]
  rw [and_left_comm]

/-! ## Links of a survey -/

/-- Whether a round linked two entities. -/
def Round.Links (setup : Setup) (snapshot : Snapshot) (round : Round) (a b : EntityId) : Prop :=
  ∃ replies, Event.analysisIn round.events = some replies ∧
    Survey.Links setup snapshot round.before replies a b

/-- A round links two entities if the replies that it found do. -/
theorem Finds.links_iff {found : Findings} (h : Finds setup snapshot progress events found)
    (a b : EntityId) :
    Round.Links setup snapshot ⟨progress, events⟩ a b ↔
      Survey.Links setup snapshot progress found.replies a b := by
  constructor
  · rintro ⟨replies, hreplies, hlinks⟩
    have hsame : some replies = some found.replies := hreplies.symm.trans h.analysis
    rw [← Option.some.inj hsame]
    exact hlinks
  · intro hlinks
    exact ⟨found.replies, h.analysis, hlinks⟩

/-- Whether a round linked two entities and no round has built the store anew since. -/
def Linked (setup : Setup) (snapshot : Snapshot) (rounds : List Round) (a b : EntityId) : Prop :=
  ∃ earlier round later, rounds = earlier ++ round :: later ∧ round.Links setup snapshot a b ∧
    ∀ other ∈ later, other.before.run.targets ≠ none

theorem not_linked_nil (a b : EntityId) : ¬Linked setup snapshot [] a b := by
  rintro ⟨earlier, round, later, hrounds, _⟩
  simp at hrounds

/-- A round links what it links itself, and keeps what was linked before if it was selective. -/
theorem linked_concat_iff (rounds : List Round) (round : Round) (a b : EntityId) :
    Linked setup snapshot (rounds ++ [round]) a b ↔
      round.Links setup snapshot a b ∨
        (round.before.run.targets ≠ none ∧ Linked setup snapshot rounds a b) := by
  constructor
  · rintro ⟨earlier, linking, later, hrounds, hlinks, hlater⟩
    rcases List.eq_nil_or_concat later with rfl | ⟨init, last, rfl⟩
    · obtain ⟨_, hlast⟩ := List.append_inj' hrounds rfl
      cases hlast
      exact .inl hlinks
    · have hsplit : rounds ++ [round] = (earlier ++ linking :: init) ++ [last] := by
        simpa using hrounds
      obtain ⟨hinit, hlast⟩ := List.append_inj' hsplit rfl
      cases hlast
      refine .inr ⟨hlater _ (by simp), earlier, linking, init, hinit, hlinks, ?_⟩
      intro other hother
      exact hlater other (by simp [hother])
  · rintro (hlinks | ⟨hselective, earlier, linking, later, rfl, hlinks, hlater⟩)
    · exact ⟨rounds, round, [], rfl, hlinks, by simp⟩
    · refine ⟨earlier, linking, later ++ [round], by simp, hlinks, ?_⟩
      intro other hother
      rcases List.mem_append.1 hother with hother | hother
      · exact hlater other hother
      · rw [List.mem_singleton.1 hother]
        exact hselective

/-- Before every pass those entities are linked which a round has linked. -/
theorem Reaches.similarEdge_mem_iff {rounds : List Round}
    (h : Reaches setup snapshot run rounds progress) (a b : EntityId) :
    similarEdge a b ∈ progress.store.edges ↔ Linked setup snapshot rounds a b := by
  induction h with
  | start entries =>
      constructor
      · intro hmem
        cases hmem
      · intro hlinked
        exact absurd hlinked (not_linked_nil a b)
  | again earlier round ih =>
      rw [linked_concat_iff, ← ih]
      cases passCourse round with
      | again hfound hopen hnext hreports =>
          obtain ⟨reply, hgraded⟩ := hfound.graded earlier.keyed
          rw [hfound.links_iff, ← similarEdge_mem_merged_iff earlier.keyed, ← hgraded.edges]
          rfl

/-! ## Stored vectors -/

/-- Whether the embedder returned at most one vector of an identity. -/
def EmbedsOnce (replies : AnalysisReplies) : Prop :=
  ∀ records, replies.embeddings = .ok records → (records.map (·.id)).Nodup

/-- An embedder that returns one vector of an identity leaves one of each in scope. -/
theorem nodup_embeddings (h : EmbedsOnce replies) :
    ((inputs setup snapshot progress replies).embeddings.map (·.id)).Nodup := by
  rcases embeddings_eq setup snapshot progress replies with hempty | ⟨records, hreply, hrecords⟩
  · rw [hempty]
    exact List.nodup_nil
  · rw [hrecords]
    exact (h records hreply).sublist (List.filter_sublist.map _)

/-- An entity that a fusion makes has a vector of the pass, if it has one at all. -/
theorem mem_embeddings_of_covers {steps : List Fusion.Step}
    (hsteps : Fusion.Steps .standard (inputs setup snapshot progress replies) progress.run.targets
      steps) {id : EntityId} {entity : Entity}
    (hcovers : Fusion.Covers (inputs setup snapshot progress replies) progress.run.targets id)
    (hentity : (merged setup snapshot progress replies steps).1.get? id = some entity)
    (hvector : entity.embedding ≠ []) :
    ⟨id, entity.embedding⟩ ∈ (inputs setup snapshot progress replies).embeddings := by
  obtain ⟨made, hmade, rfl, hget⟩ := Fusion.get?_merge_of_covers hsteps hcovers
  rw [merged, hget, Option.some.injEq] at hentity
  subst hentity
  have hembedding := (Fusion.embedding_score_of_mem_freshEntities hmade).1
  rw [Fusion.vectorFor] at hembedding
  cases hlookup : (Fusion.vectorsById (inputs setup snapshot progress replies).embeddings).get?
      made.id with
  | none =>
      rw [hlookup] at hembedding
      exact absurd hembedding hvector
  | some vector =>
      rw [hlookup, Option.getD_some] at hembedding
      obtain ⟨record, hrecord, hsame⟩ := List.mem_map.1 (OrderedMap.mem_of_get?_ofList hlookup)
      simp only [Prod.mk.injEq] at hsame
      obtain ⟨hid, hsame⟩ := hsame
      rw [hembedding, ← hid, ← hsame]
      exact hrecord

/-- The stored vector of an entity that a fusion made, or that was out of its scope, is the one with
which the entity was compared. -/
theorem comparedVector_eq_stored (honce : EmbedsOnce replies) {steps : List Fusion.Step}
    (hsteps : Fusion.Steps .standard (inputs setup snapshot progress replies) progress.run.targets
      steps) {id : EntityId} {entity : Entity}
    (hmade : Fusion.Covers (inputs setup snapshot progress replies) progress.run.targets id ∨
      inScope progress.run.targets id = false)
    (hentity : (merged setup snapshot progress replies steps).1.get? id = some entity)
    (hvector : entity.embedding ≠ []) :
    comparedVector setup snapshot progress replies id = some entity.embedding := by
  rw [comparedVector]
  rcases hmade with hcovers | hscope
  · have hmem := mem_embeddings_of_covers hsteps hcovers hentity hvector
    rw [hcovers.inScope, if_pos rfl]
    refine Linking.vectorIn_eq_some ?_ hmem hvector
    intro other hother
    exact Linking.vector_eq_of_nodup (nodup_embeddings honce) hother hmem
  · have hcovers : ¬Fusion.Covers (inputs setup snapshot progress replies) progress.run.targets
        id := by
      intro hcovers
      rw [hcovers.inScope] at hscope
      cases hscope
    rw [merged, Fusion.get?_merge_of_not_covers hsteps hcovers] at hentity
    cases htargets : progress.run.targets with
    | none =>
        rw [htargets] at hscope
        cases hscope
    | some targets =>
        rw [htargets, Fusion.base_some] at hentity
        rw [htargets] at hscope
        simp [hscope, hentity, hvector]

/-- A full pass makes every entity that is stored after it. -/
theorem covers_of_full (hfull : progress.run.targets = none) {steps : List Fusion.Step}
    (hsteps : Fusion.Steps .standard (inputs setup snapshot progress replies) progress.run.targets
      steps) {id : EntityId} {entity : Entity}
    (hentity : (merged setup snapshot progress replies steps).1.get? id = some entity) :
    Fusion.Covers (inputs setup snapshot progress replies) progress.run.targets id := by
  by_cases hcovers : Fusion.Covers (inputs setup snapshot progress replies) progress.run.targets id
  · exact hcovers
  · rw [merged, Fusion.get?_merge_of_not_covers hsteps hcovers, hfull, Fusion.base_none,
      Store.get?_empty] at hentity
    cases hentity

/-! ## Which similar entities are linked -/

/-- Whether two entities are linked, provided that their stored vectors are similar enough. -/
def Complete (setup : Setup) (store : Store) (a b : EntityId) : Prop :=
  ∀ x ∈ store.get? a, ∀ y ∈ store.get? b, x.hasEmbedding = true → y.hasEmbedding = true →
    setup.collaborators.similarity x.embedding y.embedding ≥
      setup.settings.policy.similarityLinkThreshold →
    similarEdge a b ∈ store.edges

instance (setup : Setup) (store : Store) (a b : EntityId) :
    Decidable (Complete setup store a b) :=
  inferInstanceAs (Decidable (∀ x ∈ store.get? a, ∀ y ∈ store.get? b, _ → _ → _ → _))

/-- Whether a pass attends to two entities.  The embedder returns at most one vector of an identity;
and if a selective pass has one of the two among its targets, it makes the first one, and the second
one as well if that is a target. -/
structure Attends (setup : Setup) (snapshot : Snapshot) (progress : Progress)
    (replies : AnalysisReplies) (a b : EntityId) : Prop where
  once : EmbedsOnce replies
  first : ∀ targets, progress.run.targets = some targets →
    targets.contains a = true ∨ targets.contains b = true →
      Fusion.Covers (inputs setup snapshot progress replies) progress.run.targets a
  second : ∀ targets, progress.run.targets = some targets → targets.contains b = true →
    Fusion.Covers (inputs setup snapshot progress replies) progress.run.targets b

/-- A fusion links similar entities of which it makes the first one, and makes the second one or has
it out of its scope. -/
theorem complete_of_covers (hkeyed : progress.store.Keyed) (honce : EmbedsOnce replies)
    {steps : List Fusion.Step}
    (hsteps : Fusion.Steps .standard (inputs setup snapshot progress replies) progress.run.targets
      steps) {a b : EntityId} (hlt : compare a b = .lt)
    (hfirst : Fusion.Covers (inputs setup snapshot progress replies) progress.run.targets a)
    (hsecond : Fusion.Covers (inputs setup snapshot progress replies) progress.run.targets b ∨
      inScope progress.run.targets b = false) :
    Complete setup (merged setup snapshot progress replies steps).1 a b := by
  intro x hx y hy hxvector hyvector hsimilar
  rw [Entity.hasEmbedding_iff] at hxvector hyvector
  rw [similarEdge_mem_merged_iff hkeyed]
  refine .inl ⟨hlt, hfirst.inScope, x.embedding, y.embedding, ?_, ?_, hsimilar⟩
  · exact comparedVector_eq_stored honce hsteps (.inl hfirst) hx hxvector
  · exact comparedVector_eq_stored honce hsteps hsecond hy hyvector

/-- A fusion that attends to two entities keeps them linked. -/
theorem Attends.complete {a b : EntityId}
    (hattends : Attends setup snapshot progress replies a b) (hkeyed : progress.store.Keyed)
    {steps : List Fusion.Step}
    (hsteps : Fusion.Steps .standard (inputs setup snapshot progress replies) progress.run.targets
      steps) (hlt : compare a b = .lt) (hbefore : Complete setup progress.store a b) :
    Complete setup (merged setup snapshot progress replies steps).1 a b := by
  cases htargets : progress.run.targets with
  | none =>
      intro x hx y hy
      exact complete_of_covers hkeyed hattends.once hsteps hlt (covers_of_full htargets hsteps hx)
        (.inl (covers_of_full htargets hsteps hy)) x hx y hy
  | some targets =>
      by_cases hfirst : targets.contains a = true
      · refine complete_of_covers hkeyed hattends.once hsteps hlt
          (hattends.first targets htargets (.inl hfirst)) ?_
        cases hsecond : targets.contains b with
        | true => exact .inl (hattends.second targets htargets hsecond)
        | false =>
            rw [htargets, inScope_some]
            exact .inr hsecond
      · -- Neither of them is a target, so they keep their vectors and their link.
        have hneither : ∀ id, id = a ∨ id = b →
            ¬Fusion.Covers (inputs setup snapshot progress replies) progress.run.targets id := by
          rintro id hid hcovers
          have hscope := hcovers.inScope
          rw [htargets, inScope_some] at hscope
          have hmade : targets.contains a = true ∨ targets.contains b = true := by
            rcases hid with rfl | rfl
            · exact .inl hscope
            · exact .inr hscope
          have hcontains := (hattends.first targets htargets hmade).inScope
          rw [htargets, inScope_some] at hcontains
          exact hfirst hcontains
        intro x hx y hy hxvector hyvector hsimilar
        rw [merged, Fusion.get?_merge_of_not_covers hsteps (hneither a (.inl rfl)), htargets,
          Fusion.base_some] at hx
        rw [merged, Fusion.get?_merge_of_not_covers hsteps (hneither b (.inr rfl)), htargets,
          Fusion.base_some] at hy
        rw [similarEdge_mem_merged_iff hkeyed, htargets]
        exact .inr ⟨by simp, hbefore x hx y hy hxvector hyvector hsimilar⟩

/-- Scoring leaves vectors alone. -/
theorem regraded_embedding {evaluator : Evaluator} {scope : Option TargetSet}
    (reply : EntityId → Outcome Failure Vector32) (entity : Entity) :
    (evaluator.regraded scope reply entity).embedding = entity.embedding := by
  rw [Evaluator.regraded]
  split
  · rfl
  · split <;> rfl

/-- An evaluation changes neither vectors nor edges. -/
theorem Finds.complete {found : Findings} (h : Finds setup snapshot progress events found)
    (hkeyed : progress.store.Keyed) {a b : EntityId}
    (hmerged : Complete setup (merged setup snapshot progress found.replies found.steps).1 a b) :
    Complete setup found.scored a b := by
  obtain ⟨reply, hgraded⟩ := h.graded hkeyed
  intro x hx y hy
  rw [hgraded.lookup] at hx hy
  obtain ⟨xOld, hxOld, rfl⟩ := Option.map_eq_some_iff.1 hx
  obtain ⟨yOld, hyOld, rfl⟩ := Option.map_eq_some_iff.1 hy
  rw [Entity.hasEmbedding, Entity.hasEmbedding, regraded_embedding, regraded_embedding,
    hgraded.edges]
  exact hmerged xOld hxOld yOld hyOld

/-- Similar entities to which all rounds have attended are linked. -/
theorem Reaches.complete {rounds : List Round} (h : Reaches setup snapshot run rounds progress)
    {a b : EntityId} (hlt : compare a b = .lt)
    (hattends : ∀ round ∈ rounds, ∀ replies, Event.analysisIn round.events = some replies →
      Attends setup snapshot round.before replies a b) :
    Complete setup progress.store a b := by
  induction h with
  | start entries =>
      intro x hx
      cases hx
  | again earlier round ih =>
      have hbefore := ih fun other hother => hattends other (List.mem_append_left _ hother)
      cases passCourse round with
      | again hfound hopen hnext hreports =>
          have hround := hattends _ (List.mem_append_right _ List.mem_cons_self) _ hfound.analysis
          exact hfound.complete earlier.keyed
            (hround.complete earlier.keyed hfound.steps hlt hbefore)

/-- The links between similar entities after every fusion of a survey.  Two entities are linked
exactly if this pass links them, or the pass is selective and a round has linked them since the
store was built.  And all similar entities are linked to which every pass has attended. -/
theorem similar_links {rounds : List Round} (hreaches : Reaches setup snapshot run rounds progress)
    {steps : List Fusion.Step}
    (hsteps : Fusion.Steps .standard (inputs setup snapshot progress replies) progress.run.targets
      steps) (a b : EntityId) :
    (similarEdge a b ∈ (fused setup snapshot progress replies steps).store.edges ↔
      Links setup snapshot progress replies a b ∨
        (progress.run.targets ≠ none ∧ Linked setup snapshot rounds a b)) ∧
      (compare a b = .lt →
        (∀ round ∈ rounds, ∀ replies, Event.analysisIn round.events = some replies →
          Attends setup snapshot round.before replies a b) →
        Attends setup snapshot progress replies a b →
        Complete setup (fused setup snapshot progress replies steps).store a b) := by
  have hkeyed : progress.store.Keyed := hreaches.keyed
  rw [fused_store]
  constructor
  · rw [similarEdge_mem_merged_iff hkeyed, hreaches.similarEdge_mem_iff]
  · intro hlt hrounds hpass
    exact hpass.complete hkeyed hsteps hlt (hreaches.complete hlt hrounds)

end Similarity

/-! ## The links of two files -/

namespace TwoFiles

/-- The second pass has no ladder to try. -/
theorem steps_second :
    Fusion.Steps .standard (inputs setup snapshot second (replies 1)) second.run.targets
      [] where
  nodes := by
    rw [second_targets]
    rfl
  resolved := by simp

/-- The replies of a pass that has both files summarized and embedded. -/
def together : AnalysisReplies where
  summaries := .ok [⟨a, "Reads the configuration.", 1, .file, []⟩,
    ⟨b, "Writes the configuration.", 1, .file, []⟩]
  graph := .ok .empty
  embeddings := .ok [⟨a, [1]⟩, ⟨b, [1]⟩]

theorem start_targets : (Progress.start run).run.targets = none := rfl

/-- Both files have summaries, so no ladder is climbed. -/
theorem steps_together :
    Fusion.Steps .standard (inputs setup snapshot (.start run) together)
      (Progress.start run).run.targets [] where
  nodes := rfl
  resolved := by simp

/-- A full pass with one vector of each file attends to both. -/
theorem attends_together : Attends setup snapshot (.start run) together a b where
  once := by
    intro records hrecords
    cases hrecords
    decide
  first := by
    intro targets htargets
    rw [start_targets] at htargets
    cases htargets
  second := by
    intro targets htargets
    rw [start_targets] at htargets
    cases htargets

/-- The embedder returns one vector of a file at most. -/
theorem embedsOnce_replies (analyses : Nat) : EmbedsOnce (replies analyses) := by
  intro records hrecords
  cases analyses with
  | zero =>
      cases hrecords
      exact List.nodup_singleton a
  | succ analyses =>
      cases hrecords
      exact List.nodup_singleton b

/-- The embedder of the host never returns two vectors of an identity. -/
theorem embedsOnce_of_analysisIn {plan : Plan PassEnd} {analyses : Nat} {replied : AnalysisReplies}
    (h : Event.analysisIn (plan.events host analyses) = some replied) : EmbedsOnce replied := by
  obtain ⟨event, hmem, hevent⟩ := List.exists_of_findSome?_eq_some h
  have hall : ∀ event ∈ plan.events host analyses, ∀ replied, event.analysis? = some replied →
      EmbedsOnce replied := by
    apply Plan.forall_mem_events
    · intro cancelled replied hreplied
      cases hreplied
    · intro request analyses replied hreplied
      cases request with
      | analyze snapshot targets snippets =>
          cases hreplied
          exact embedsOnce_replies analyses
      | _ => cases hreplied
  exact hall event hmem replied hevent

end TwoFiles

/-- Two files with similar vectors are linked by a pass that has both vectors.  If the vector of the
second file arrives on a pass that is made for this file alone, then no pass links them: the smaller
identity is out of scope. -/
theorem similar_links_two_files :
    similarEdge TwoFiles.a TwoFiles.b ∈
        (fused TwoFiles.setup TwoFiles.snapshot (.start TwoFiles.run) TwoFiles.together
          []).store.edges ∧
      ¬Links TwoFiles.setup TwoFiles.snapshot TwoFiles.second (TwoFiles.replies 1) TwoFiles.a
        TwoFiles.b ∧
      ¬Linked TwoFiles.setup TwoFiles.snapshot
        [⟨.start TwoFiles.run,
          (pass TwoFiles.setup TwoFiles.snapshot (.start TwoFiles.run)).events TwoFiles.host 0⟩]
        TwoFiles.a TwoFiles.b := by
  have hstart : Reaches TwoFiles.setup TwoFiles.snapshot TwoFiles.run []
      (.start TwoFiles.run) := .start []
  have htogether := (similar_links hstart TwoFiles.steps_together TwoFiles.a TwoFiles.b).2
    (by decide) (by simp) TwoFiles.attends_together
  have hlinks := (similar_links TwoFiles.reaches_second TwoFiles.steps_second TwoFiles.a
    TwoFiles.b).1
  have hnot : similarEdge TwoFiles.a TwoFiles.b ∉
      (fused TwoFiles.setup TwoFiles.snapshot TwoFiles.second (TwoFiles.replies 1)
        []).store.edges := by
    decide +kernel
  have hselective : TwoFiles.second.run.targets ≠ none := by
    rw [TwoFiles.second_targets]
    simp
  refine ⟨?_, ?_, ?_⟩
  · exact htogether _ (Option.get_mem (by decide +kernel)) _ (Option.get_mem (by decide +kernel))
      (by decide +kernel) (by decide +kernel) (by decide +kernel)
  · intro h
    exact hnot (hlinks.2 (.inl h))
  · intro h
    exact hnot (hlinks.2 (.inr ⟨hselective, h⟩))

/-- Similar entities need not be linked after a fusion, not even if the embedder returns at most one
vector of an identity on every pass. -/
theorem similar_links_incomplete :
    ¬∀ (setup : Setup) (snapshot : Snapshot) (run : Run) (rounds : List Round)
        (progress : Progress) (replies : AnalysisReplies) (steps : List Fusion.Step),
      Reaches setup snapshot run rounds progress →
      Fusion.Steps .standard (inputs setup snapshot progress replies) progress.run.targets steps →
      (∀ round ∈ rounds, ∀ replies, Event.analysisIn round.events = some replies →
        EmbedsOnce replies) →
      EmbedsOnce replies →
      ∀ a b, compare a b = .lt →
        Complete setup (fused setup snapshot progress replies steps).store a b := by
  intro hlinked
  have hrounds : ∀ round ∈ [(⟨.start TwoFiles.run,
      (pass TwoFiles.setup TwoFiles.snapshot (.start TwoFiles.run)).events TwoFiles.host 0⟩ :
        Round)], ∀ replies, Event.analysisIn round.events = some replies → EmbedsOnce replies := by
    intro round hround replies hreplies
    rw [List.mem_singleton.1 hround] at hreplies
    exact TwoFiles.embedsOnce_of_analysisIn hreplies
  have hcomplete := hlinked TwoFiles.setup TwoFiles.snapshot TwoFiles.run _ _ (TwoFiles.replies 1) []
    TwoFiles.reaches_second TwoFiles.steps_second hrounds (TwoFiles.embedsOnce_replies 1)
    TwoFiles.a TwoFiles.b (by decide)
  exact absurd hcomplete (by decide +kernel)

end Survey
end CodeSurvey
