import CodeSurvey.Proofs.Fusion.Specification
import CodeSurvey.Proofs.Linking.Inclusion
import CodeSurvey.Proofs.Survey.SimilarLinks

/-!
# Compared vectors and stored vectors

A full pass uses the vectors of the embedder twice.  The inference of links compares them, and the
fusion stores them.  If the embedder returns several vectors of an identity the two differ in which
of them they take: the first one that is not empty is compared, and the last one is stored.  So
entities may be linked whose stored vectors have nothing in common, and others not be linked whose
stored vectors are the same.

## Main results

* `Survey.full_pass_links`: which entities a full pass links, and which vectors it stores.
* `Survey.links_as_stored_iff`: when the links are those that the stored vectors tell.
* `Survey.linked_against_stored_vectors`: a link that the stored vectors do not tell.
-/

namespace CodeSurvey

namespace Linking

variable {records : List EmbeddingRecord} {id : EntityId}

/-- An identity that some vector is stored for is compared by some vector. -/
theorem exists_vectorIn {vector : Vector32} (hmem : ⟨id, vector⟩ ∈ records) (hne : vector ≠ []) :
    ∃ other, vectorIn records id = some other := by
  rw [← Option.isSome_iff_exists, vectorIn, Option.isSome_map, List.find?_isSome]
  exact ⟨⟨id, vector⟩, hmem, by simp [hne]⟩

/-- The last vector of an identity, which is empty if there is none. -/
def lastVectorIn (records : List EmbeddingRecord) (id : EntityId) : Vector32 :=
  ((records.reverse.find? fun record => id = record.id).map (·.vector)).getD []

theorem mem_of_lastVectorIn (hne : lastVectorIn records id ≠ []) :
    ⟨id, lastVectorIn records id⟩ ∈ records := by
  cases hrecord : records.reverse.find? fun record => id = record.id with
  | none =>
      rw [lastVectorIn, hrecord] at hne
      exact absurd rfl hne
  | some record =>
      have hid : id = record.id := by
        simpa using List.find?_some hrecord
      rw [lastVectorIn, hrecord, hid]
      exact List.mem_reverse.1 (List.mem_of_find?_eq_some hrecord)

end Linking

namespace Survey

section FullPass

variable {setup : Setup} {results : Stages.Results} {store : Store} {events : List Event}
  {result : Option (Store × FusionReport)}

/-! ## Full passes -/

/-- What a survey fuses on a pass without targets: the results of its stages, and the links that are
inferred from them. -/
def fullInputs (setup : Setup) (results : Stages.Results) (store : Store) : FusionInputs :=
  ⟨results.summaries, results.graph, results.embeddings,
    Stages.inferLinks setup results none store⟩

/-- The inference and the fusion of a full pass. -/
def linkAndFuse (setup : Setup) (results : Stages.Results) (store : Store) :
    Plan (Store × FusionReport) :=
  setup.fuse (fullInputs setup results store) none store

/-- The links of a full pass are told by the vectors that are compared. -/
theorem similarEdge_mem_iff {outcome : StructuralNode → Option LadderOutcome} {fused : Store}
    (hfused : Fusion.FullyFused setup.settings.policy.ensembleMode
      (fullInputs setup results store) outcome fused) (a b : EntityId) :
    similarEdge a b ∈ fused.edges ↔
      compare a b = .lt ∧ ∃ v w, Linking.vectorIn results.embeddings a = some v ∧
        Linking.vectorIn results.embeddings b = some w ∧
        setup.collaborators.similarity v w ≥ setup.settings.policy.similarityLinkThreshold := by
  have hlinks : (fullInputs setup results store).logicalEdges =
      Linking.infer setup.collaborators.similarity setup.settings.policy.similarityLinkThreshold
        (results.summaries.map (·.id) ++ results.graph.nodes.map (·.id)) results.embeddings := rfl
  have hphysical : similarEdge a b ∉ (fullInputs setup results store).graph.physicalEdges := by
    intro hmem
    cases StructuralGraph.kind_of_mem_physicalEdges hmem
  rw [hfused.edges, List.mem_append, or_iff_right hphysical, FusionInputs.inferredEdges_eq, hlinks,
    similarEdge, Linking.mem_infer_iff]
  intro edge hedge
  rw [hlinks] at hedge
  exact Linking.kind_of_mem_infer hedge

/-- A full pass ends, whatever becomes of the ladders. -/
theorem fullyFused_of_course (hcourse : (linkAndFuse setup results store).Course events result) :
    ∃ fused report outcome, result = some (fused, report) ∧
      Fusion.FullyFused setup.settings.policy.ensembleMode (fullInputs setup results store)
        outcome fused := by
  rw [linkAndFuse, Setup.fuse] at hcourse
  obtain ⟨fused, report, nodes, outcome, hresult, -, -, -, hfused⟩ := Fusion.full_fusion hcourse
  exact ⟨fused, report, outcome, hresult, hfused⟩

/-- A full pass stores the last vector of every identity, and links two entities by the first ones
that are not empty.  If no identity has two vectors the links are those that the stored vectors
tell. -/
theorem full_pass_links (hcourse : (linkAndFuse setup results store).Course events result) :
    ∃ fused report, result = some (fused, report) ∧
      (∀ id entity, fused.get? id = some entity →
        entity.embedding = Linking.lastVectorIn results.embeddings id) ∧
      ∀ a b entity other, compare a b = .lt →
        fused.get? a = some entity → entity.embedding ≠ [] →
        fused.get? b = some other → other.embedding ≠ [] →
        (∃ v w, Linking.vectorIn results.embeddings a = some v ∧
          Linking.vectorIn results.embeddings b = some w ∧
          (similarEdge a b ∈ fused.edges ↔
            setup.collaborators.similarity v w ≥
              setup.settings.policy.similarityLinkThreshold)) ∧
        (Linking.OneVectorEach results.embeddings →
          (similarEdge a b ∈ fused.edges ↔
            setup.collaborators.similarity entity.embedding other.embedding ≥
              setup.settings.policy.similarityLinkThreshold)) := by
  obtain ⟨fused, report, outcome, rfl, hfused⟩ := fullyFused_of_course hcourse
  -- Which vector is the last one depends on the embeddings alone.
  have hlast : ∀ id entity, fused.get? id = some entity →
      entity.embedding = Linking.lastVectorIn results.embeddings id := hfused.vectors
  refine ⟨fused, report, rfl, hlast, ?_⟩
  intro a b entity other hlt hentity hvector hother hpartner
  have hmem : ⟨a, entity.embedding⟩ ∈ results.embeddings := by
    rw [hlast a entity hentity] at hvector ⊢
    exact Linking.mem_of_lastVectorIn hvector
  have hmore : ⟨b, other.embedding⟩ ∈ results.embeddings := by
    rw [hlast b other hother] at hpartner ⊢
    exact Linking.mem_of_lastVectorIn hpartner
  obtain ⟨v, hv⟩ := Linking.exists_vectorIn hmem hvector
  obtain ⟨w, hw⟩ := Linking.exists_vectorIn hmore hpartner
  have hlink : similarEdge a b ∈ fused.edges ↔
      setup.collaborators.similarity v w ≥ setup.settings.policy.similarityLinkThreshold := by
    rw [similarEdge_mem_iff hfused, hv, hw]
    simp [hlt]
  refine ⟨⟨v, w, hv, hw, hlink⟩, ?_⟩
  intro hone
  rw [hlink, hone a v _ (Linking.mem_of_vectorIn hv).1 hmem,
    hone b w _ (Linking.mem_of_vectorIn hw).1 hmore]

/-- A setup whose similarity tells one pair of vectors from all others. -/
noncomputable def indicatorSetup (x y : Vector32) : Setup where
  settings := .default
  collaborators := ⟨"summarizer", "embedder",
    fun v w => open Classical in if v = x ∧ w = y then 1 else 0, false⟩
  strategy := none
  postProcessors := []

theorem indicatorSetup_similar_iff (x y v w : Vector32) :
    (indicatorSetup x y).collaborators.similarity v w ≥
        (indicatorSetup x y).settings.policy.similarityLinkThreshold ↔ v = x ∧ w = y := by
  rw [indicatorSetup]
  dsimp only
  split
  · rename_i hsame
    exact iff_of_true (by decide +kernel) hsame
  · rename_i hdiffer
    exact iff_of_false (by decide +kernel) hdiffer

/-- Full passes link two entities as their stored vectors tell, whatever is taken for similar,
exactly if the stored vectors are the compared ones. -/
theorem links_as_stored_iff {a b : EntityId} (hlt : compare a b = .lt) :
    (∀ (setup : Setup) (store : Store) (events : List Event) (fused : Store)
        (report : FusionReport),
      (linkAndFuse setup results store).Course events (some (fused, report)) →
      (similarEdge a b ∈ fused.edges ↔
        setup.collaborators.similarity (Linking.lastVectorIn results.embeddings a)
            (Linking.lastVectorIn results.embeddings b) ≥
          setup.settings.policy.similarityLinkThreshold)) ↔
      Linking.vectorIn results.embeddings a = some (Linking.lastVectorIn results.embeddings a) ∧
        Linking.vectorIn results.embeddings b =
          some (Linking.lastVectorIn results.embeddings b) := by
  constructor
  · intro hstored
    -- The links are assumed to be told for every similarity, so also for one that knows only the
    -- stored vectors.
    obtain ⟨events, result, hcourse, -⟩ := Plan.exists_course_cancelled
      (linkAndFuse (indicatorSetup (Linking.lastVectorIn results.embeddings a)
        (Linking.lastVectorIn results.embeddings b)) results .empty)
    obtain ⟨fused, report, outcome, rfl, hfused⟩ := fullyFused_of_course hcourse
    have hlink := (hstored _ .empty events fused report hcourse).2
      ((indicatorSetup_similar_iff _ _ _ _).2 ⟨rfl, rfl⟩)
    obtain ⟨-, v, w, hv, hw, hsimilar⟩ := (similarEdge_mem_iff hfused a b).1 hlink
    obtain ⟨rfl, rfl⟩ := (indicatorSetup_similar_iff _ _ v w).1 hsimilar
    exact ⟨hv, hw⟩
  · rintro ⟨hv, hw⟩ setup store events fused report hcourse
    obtain ⟨_, _, outcome, hresult, hfused⟩ := fullyFused_of_course hcourse
    cases hresult
    rw [similarEdge_mem_iff hfused, hv, hw]
    simp [hlt]

end FullPass

end Survey

/-! ## A file with two vectors -/

namespace TwoVectors

def a : EntityId := ⟨"a.py"⟩

def b : EntityId := ⟨"b.py"⟩

/-- The standard settings and the standard similarity. -/
def setup : Setup where
  settings := .default
  collaborators := ⟨"summarizer", "embedder", .cosine, false⟩
  strategy := none
  postProcessors := []

/-- The first vector of the first file is that of the second file, and its other one is not. -/
def results : Stages.Results where
  summaries := [⟨a, "Reads the configuration file.", 1, .file, []⟩,
    ⟨b, "Writes the configuration file.", 1, .file, []⟩]
  graph := .empty
  embeddings := [⟨a, [1, 0]⟩, ⟨b, [1, 0]⟩, ⟨a, [0, 1]⟩]

def host : Host Unit where
  cancelled _ := false
  answer request state := (request.anyAnswer, state)

def plan : Plan (Store × FusionReport) := Survey.linkAndFuse setup results .empty

def result : Option (Store × FusionReport) := (plan.run host ()).1

theorem course : plan.Course (plan.events host ()) result := Plan.course_run host plan ()

/-- The vectors that are stored for the two files. -/
def stored : Option (Vector32 × Vector32) := do
  let fused ← result
  let first ← fused.1.get? a
  let second ← fused.1.get? b
  return (first.embedding, second.embedding)

theorem stored_eq : ∃ fused report first second, result = some (fused, report) ∧
    fused.get? a = some first ∧ fused.get? b = some second ∧
    first.embedding = [0, 1] ∧ second.embedding = [1, 0] := by
  have hstored : stored = some ([0, 1], [1, 0]) := by
    decide +kernel
  simp only [stored, Option.bind_eq_bind, Option.bind_eq_some_iff, Option.pure_def,
    Option.some.injEq, Prod.mk.injEq] at hstored
  obtain ⟨⟨fused, report⟩, hresult, first, hfirst, second, hsecond, hembedding, hother⟩ := hstored
  exact ⟨fused, report, first, second, hresult, hfirst, hsecond, hembedding, hother⟩

end TwoVectors

namespace Survey

/-- The two files are linked, although the vectors that are stored for them are orthogonal. -/
theorem full_pass_links_two_vectors :
    ∃ fused report, TwoVectors.result = some (fused, report) ∧
      ((fused.get? TwoVectors.a).map (·.embedding)) = some [0, 1] ∧
      ((fused.get? TwoVectors.b).map (·.embedding)) = some [1, 0] ∧
      similarEdge TwoVectors.a TwoVectors.b ∈ fused.edges := by
  obtain ⟨fused, report, hresult, -, hlinks⟩ := full_pass_links TwoVectors.course
  obtain ⟨_, _, first, second, hsame, hfirst, hsecond, hembedding, hother⟩ := TwoVectors.stored_eq
  cases hresult.symm.trans hsame
  obtain ⟨⟨v, w, hv, hw, hlink⟩, -⟩ := hlinks TwoVectors.a TwoVectors.b first second
    (by decide +kernel) hfirst (by simp [hembedding]) hsecond (by simp [hother])
  have hvector : v = [1, 0] := by
    have hcompared : some v = some [1, 0] := hv.symm.trans (by decide +kernel)
    exact Option.some.inj hcompared
  have hpartner : w = [1, 0] := by
    have hcompared : some w = some [1, 0] := hw.symm.trans (by decide +kernel)
    exact Option.some.inj hcompared
  refine ⟨fused, report, hresult, by simp [hfirst, hembedding], by simp [hsecond, hother],
    hlink.2 ?_⟩
  rw [hvector, hpartner]
  decide +kernel

/-- The links of a full pass may not be those that the stored vectors tell. -/
theorem linked_against_stored_vectors :
    ¬ ∀ (setup : Setup) (results : Stages.Results) (store : Store) (events : List Event)
        (fused : Store) (report : FusionReport) (a b : EntityId) (entity other : Entity),
      (∀ record ∈ results.embeddings,
        record.id ∈ results.summaries.map (·.id) ++ results.graph.nodes.map (·.id)) →
      (linkAndFuse setup results store).Course events (some (fused, report)) →
      compare a b = .lt → fused.get? a = some entity → entity.embedding ≠ [] →
      fused.get? b = some other → other.embedding ≠ [] →
      (similarEdge a b ∈ fused.edges ↔
        setup.collaborators.similarity entity.embedding other.embedding ≥
          setup.settings.policy.similarityLinkThreshold) := by
  intro hstored
  obtain ⟨fused, report, first, second, hresult, hfirst, hsecond, hembedding, hother⟩ :=
    TwoVectors.stored_eq
  have hcourse := TwoVectors.course
  rw [hresult] at hcourse
  have hlink := hstored TwoVectors.setup TwoVectors.results .empty _ fused report TwoVectors.a
    TwoVectors.b first second (by decide +kernel) hcourse (by decide +kernel) hfirst
    (by simp [hembedding]) hsecond (by simp [hother])
  have hmem : TwoVectors.result.map (fun fused =>
      fused.1.edges.contains (similarEdge TwoVectors.a TwoVectors.b)) = some true := by
    decide +kernel
  rw [hresult, Option.map_some, Option.some.injEq, List.contains_iff_mem] at hmem
  have hsimilar := hlink.1 hmem
  rw [hembedding, hother] at hsimilar
  exact absurd hsimilar (by decide +kernel)

end Survey
end CodeSurvey
