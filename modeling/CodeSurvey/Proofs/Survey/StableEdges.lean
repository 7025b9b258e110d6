import CodeSurvey.Proofs.Fusion.Edges
import CodeSurvey.Proofs.Linking.Inclusion
import CodeSurvey.Proofs.Survey.SelectivePass
import CodeSurvey.Proofs.Survey.SimilarLinks

/-!
# Edges of a stable repository

While a repository stays the same, its parser and its embedder report the same about it, if they
report at all.  A full pass on which both succeed knows everything that selective passes can find
out later: their identities and their vectors are among those of the full pass.  So they infer
nothing new, and swap edges for themselves, whether their own calls succeed or not.

## Main results

* `AnalysisReplies.IsStable`: replies about a stable repository.
* `Survey.Informed`: what a full pass knows; `Survey.Agrees`: the stores that agree with it.
* `Survey.Agrees.merged`: a selective fusion keeps this agreement.
* `Survey.StoreAfter`, `Survey.storeAfter`: what a pass leaves of the store.
* `Survey.edges_of_stable_repository`: the edges after any number of selective passes.
-/

namespace CodeSurvey

/-! ## Replies about a stable repository -/

/-- Whether a call has given its value. -/
def Outcome.isOk {ε α : Type} : Outcome ε α → Bool
  | .ok _ => true
  | _ => false

theorem Outcome.isOk_iff {ε α : Type} {outcome : Outcome ε α} :
    outcome.isOk = true ↔ ∃ value, outcome = .ok value := by
  cases outcome <;> simp [isOk]

namespace AnalysisReplies

/-- Whether the replies about some snippets are those about a stable repository: the parser reports
the graph if it succeeds, and the embedder one record for each snippet, in any order, with the
vector of its identity. -/
structure IsStable (graph : StructuralGraph) (vector : EntityId → Vector32)
    (snippets : List Snippet) (replies : AnalysisReplies) : Prop where
  graph : ∀ reported, replies.graph = .ok reported → reported = graph
  embeddings : snippets ≠ [] → ∀ records, replies.embeddings = .ok records →
    records.Perm (snippets.map fun snippet => ⟨snippet.id, vector snippet.id⟩)

/-- Whether the parser has succeeded, and the embedder as well if it was called. -/
def succeeds (snippets : List Snippet) (replies : AnalysisReplies) : Bool :=
  replies.graph.isOk && (snippets.isEmpty || replies.embeddings.isOk)

end AnalysisReplies

namespace Event

/-- Whether an event could happen with a stable repository. -/
def IsStable (graph : StructuralGraph) (vector : EntityId → Vector32) : Event → Prop
  | .answered (.analyze _ _ snippets) replies => replies.IsStable graph vector snippets
  | _ => True

/-- Whether parser and embedder have not failed. -/
def succeeds : Event → Bool
  | .answered (.analyze _ _ snippets) replies => replies.succeeds snippets
  | _ => true

end Event

namespace Survey

section Stable

variable {setup : Setup} {snapshot : Snapshot} {run : Run} {progress : Progress}
  {events : List Event} {replies : AnalysisReplies} {graph : StructuralGraph}
  {vector : EntityId → Vector32} {ids : List EntityId} {records : List EmbeddingRecord}

/-! ## What a pass fuses -/

/-- A pass fuses the graph, or nothing if the parser fails. -/
theorem graph_eq (hstable : replies.IsStable graph vector
    (Stages.snippets snapshot progress.run.targets)) :
    (inputs setup snapshot progress replies).graph = graph ∨
      (inputs setup snapshot progress replies).graph = .empty := by
  simp only [inputs, analysis, Stages.parse]
  cases hreply : replies.graph with
  | ok reported =>
      rw [← hstable.graph reported hreply]
      exact .inl rfl
  | failed error => exact .inr rfl
  | timedOut => exact .inr rfl
  | panicked => exact .inr rfl

/-- If the parser succeeds, the pass fuses the graph of the repository. -/
theorem graph_eq_of_succeeds {snippets : List Snippet}
    (hstable : replies.IsStable graph vector (Stages.snippets snapshot progress.run.targets))
    (hsucceeds : replies.succeeds snippets = true) :
    (inputs setup snapshot progress replies).graph = graph := by
  rw [AnalysisReplies.succeeds, Bool.and_eq_true] at hsucceeds
  obtain ⟨reported, hreply⟩ := Outcome.isOk_iff.1 hsucceeds.1
  simp only [inputs, analysis, Stages.parse, hreply]
  exact hstable.graph reported hreply

/-- Without snippets there are no fresh vectors. -/
theorem embeddings_eq_nil (h : Stages.snippets snapshot progress.run.targets = []) :
    (inputs setup snapshot progress replies).embeddings = [] := by
  simp [inputs, analysis, Stages.embed, h]

/-- A pass knows no other vectors than those of files. -/
theorem mem_embeddings_of_stable (hstable : replies.IsStable graph vector
    (Stages.snippets snapshot progress.run.targets)) {record : EmbeddingRecord}
    (h : record ∈ (inputs setup snapshot progress replies).embeddings) :
    ∃ file ∈ snapshot.files, record = ⟨file.id, vector file.id⟩ := by
  by_cases hsnippets : Stages.snippets snapshot progress.run.targets = []
  · rw [embeddings_eq_nil hsnippets] at h
    cases h
  rcases embeddings_eq setup snapshot progress replies with hempty | ⟨records, hreply, hrecords⟩
  · rw [hempty] at h
    cases h
  · rw [hrecords] at h
    have hmem := (List.mem_filter.1 h).1
    rw [(hstable.embeddings hsnippets records hreply).mem_iff] at hmem
    obtain ⟨snippet, hsnippet, rfl⟩ := List.mem_map.1 hmem
    obtain ⟨file, hfile, rfl⟩ := List.mem_map.1 hsnippet
    exact ⟨file, (List.mem_filter.1 hfile).1, rfl⟩

/-- A full pass on which the embedder succeeds knows the vectors of all files. -/
theorem mem_embeddings_of_succeeds (hfull : progress.run.targets = none)
    (hstable : replies.IsStable graph vector (Stages.snippets snapshot progress.run.targets))
    (hsucceeds : replies.succeeds (Stages.snippets snapshot progress.run.targets) = true)
    {file : SourceFile} (hfile : file ∈ snapshot.files) :
    ⟨file.id, vector file.id⟩ ∈ (inputs setup snapshot progress replies).embeddings := by
  have hsnippet : ∃ snippet ∈ Stages.snippets snapshot progress.run.targets,
      snippet.id = file.id := by
    have hscope : file ∈ snapshot.filesInScope progress.run.targets := by
      rw [hfull]
      exact List.mem_filter.2 ⟨hfile, rfl⟩
    exact ⟨_, List.mem_map.2 ⟨file, hscope, rfl⟩, rfl⟩
  obtain ⟨snippet, hsnippet, hid⟩ := hsnippet
  have hnonempty := List.ne_nil_of_mem hsnippet
  have hcalled : (Stages.snippets snapshot progress.run.targets).isEmpty = false :=
    List.isEmpty_eq_false_iff.2 hnonempty
  rw [AnalysisReplies.succeeds, hcalled, Bool.false_or, Bool.and_eq_true] at hsucceeds
  obtain ⟨records, hreply⟩ := Outcome.isOk_iff.1 hsucceeds.2
  have hrecords : (inputs setup snapshot progress replies).embeddings =
      records.filter fun record => inScope progress.run.targets record.id := by
    simp only [inputs, analysis, Stages.embed, hcalled, hreply]
    rfl
  rw [hrecords, List.mem_filter, (hstable.embeddings hnonempty records hreply).mem_iff]
  refine ⟨List.mem_map.2 ⟨snippet, hsnippet, by rw [hid]⟩, ?_⟩
  rw [hfull]
  rfl

/-- A selective pass summarizes its targets only. -/
theorem inScope_of_mem_summaries {record : SummaryRecord}
    (h : record ∈ (inputs setup snapshot progress replies).summaries) :
    inScope progress.run.targets record.id = true := by
  simp only [inputs, analysis, Stages.summarize] at h
  cases hreply : replies.summaries with
  | ok records =>
      rw [hreply] at h
      exact (List.mem_filter.1 h).2
  | _ =>
      rw [hreply] at h
      cases h

/-! ## Stores that agree with what is known -/

/-- What a full pass knows about a stable repository: all nodes, and the vectors of all files. -/
structure Informed (graph : StructuralGraph) (vector : EntityId → Vector32) (snapshot : Snapshot)
    (ids : List EntityId) (records : List EmbeddingRecord) : Prop where
  nodes : graph.nodes.map (·.id) ⊆ ids
  files : ∀ file ∈ snapshot.files, ⟨file.id, vector file.id⟩ ∈ records
  one : Linking.OneVectorEach records

/-- The edges that are inferred from some identities and vectors. -/
def inferred (setup : Setup) (ids : List EntityId) (records : List EmbeddingRecord) : List Edge :=
  Linking.infer setup.collaborators.similarity setup.settings.policy.similarityLinkThreshold ids
    records

/-- Whether a store agrees with what is known: its identities and vectors are known, its logical
edges are those inferred from all that is known, and its physical edges are those of the graph. -/
structure Agrees (setup : Setup) (graph : StructuralGraph) (ids : List EntityId)
    (records : List EmbeddingRecord) (store : Store) : Prop where
  stored : ∀ id, store.contains id = true → id ∈ ids
  vectors : ∀ id entity, store.get? id = some entity → entity.embedding ≠ [] →
    ⟨id, entity.embedding⟩ ∈ records
  logical : store.edgesOf .logical = inferred setup ids records
  physical : (store.edgesOf .physical).Perm graph.physicalEdges

/-- A full pass on which parser and embedder succeed knows all there is to know. -/
theorem informed_of_succeeds (hfull : progress.run.targets = none)
    (hstable : replies.IsStable graph vector (Stages.snippets snapshot progress.run.targets))
    (hsucceeds : replies.succeeds (Stages.snippets snapshot progress.run.targets) = true) :
    Informed graph vector snapshot (comparedIds setup snapshot progress replies)
      (inputs setup snapshot progress replies).embeddings where
  nodes := by
    intro id hid
    rw [comparedIds, graph_eq_of_succeeds hstable hsucceeds]
    exact List.mem_append_left _ (List.mem_append_right _ hid)
  files _ hfile := mem_embeddings_of_succeeds hfull hstable hsucceeds hfile
  one := by
    intro id v w hv hw
    obtain ⟨first, _, hfirst⟩ := mem_embeddings_of_stable hstable hv
    obtain ⟨second, _, hsecond⟩ := mem_embeddings_of_stable hstable hw
    rw [EmbeddingRecord.mk.injEq] at hfirst hsecond
    rw [hfirst.2, hsecond.2, ← hfirst.1, ← hsecond.1]

/-- Its fused store agrees with that. -/
theorem agrees_of_full (hfull : progress.run.targets = none)
    (hstable : replies.IsStable graph vector (Stages.snippets snapshot progress.run.targets))
    (hsucceeds : replies.succeeds (Stages.snippets snapshot progress.run.targets) = true)
    {steps : List Fusion.Step}
    (hsteps : Fusion.Steps .standard (inputs setup snapshot progress replies) progress.run.targets
      steps) :
    Agrees setup graph (comparedIds setup snapshot progress replies)
      (inputs setup snapshot progress replies).embeddings
      (merged setup snapshot progress replies steps).1 := by
  have hrecords : comparedRecords setup snapshot progress replies =
      (inputs setup snapshot progress replies).embeddings := by
    simp [comparedRecords, hfull]
  have hinfer := logicalEdges_eq setup snapshot progress replies
  rw [hrecords] at hinfer
  constructor
  · intro id hid
    rw [Store.contains_eq_isSome, Option.isSome_iff_exists] at hid
    obtain ⟨entity, hentity⟩ := hid
    rw [comparedIds]
    refine List.mem_append_left _ (List.mem_append.2 ?_)
    exact (covers_of_full hfull hsteps hentity).2
  · intro id entity hentity hvector
    exact mem_embeddings_of_covers hsteps (covers_of_full hfull hsteps hentity) hentity hvector
  · rw [merged, hfull, Fusion.base_none, Fusion.edgesOf_logical_full,
      FusionInputs.inferredEdges_eq fun edge => kind_of_mem_logicalEdges]
    exact hinfer
  · rw [merged, hfull, Fusion.base_none, Fusion.edgesOf_physical_full,
      graph_eq_of_succeeds hstable hsucceeds]

/-- What a selective pass compares is known. -/
theorem Agrees.compared_subset (h : Agrees setup graph ids records progress.store)
    (hinformed : Informed graph vector snapshot ids records) (hkeyed : progress.store.Keyed)
    {targets : TargetSet} (htargets : progress.run.targets = some targets)
    (haimed : Aimed setup targets progress.store)
    (hstable : replies.IsStable graph vector (Stages.snippets snapshot progress.run.targets)) :
    comparedIds setup snapshot progress replies ⊆ ids ∧
      comparedRecords setup snapshot progress replies ⊆ records := by
  constructor
  · intro id hid
    simp only [comparedIds, htargets, List.mem_append, List.mem_map] at hid
    rcases hid with (⟨record, hrecord, rfl⟩ | ⟨node, hnode, rfl⟩) | ⟨entity, hentity, rfl⟩
    · have hscope := inScope_of_mem_summaries hrecord
      rw [htargets, inScope_some] at hscope
      exact h.stored _ (haimed.stored _ hscope)
    · have hreported : (inputs setup snapshot progress replies).graph = graph ∨
          (inputs setup snapshot progress replies).graph = .empty := graph_eq hstable
      rcases hreported with hgraph | hgraph
      · rw [hgraph] at hnode
        exact hinformed.nodes (List.mem_map_of_mem hnode)
      · rw [hgraph] at hnode
        cases hnode
    · have hstored := (hkeyed.mem_entities_iff entity).1 (List.mem_filter.1 hentity).1
      refine h.stored _ ?_
      rw [Store.contains_eq_isSome, hstored]
      rfl
  · intro record hrecord
    simp only [comparedRecords, htargets, List.mem_append] at hrecord
    rcases hrecord with hfresh | hstored
    · obtain ⟨file, hfile, rfl⟩ := mem_embeddings_of_stable hstable hfresh
      exact hinformed.files file hfile
    · obtain ⟨entity, hentity, rfl⟩ := List.mem_map.1 hstored
      obtain ⟨huntouched, hembedding⟩ := List.mem_filter.1 hentity
      have hlookup := (hkeyed.mem_entities_iff entity).1 (List.mem_filter.1 huntouched).1
      exact h.vectors _ entity hlookup ((Entity.hasEmbedding_iff entity).1 hembedding)

/-- A selective fusion keeps the agreement, whether parser and embedder succeed or not. -/
theorem Agrees.merged (h : Agrees setup graph ids records progress.store)
    (hinformed : Informed graph vector snapshot ids records) (hkeyed : progress.store.Keyed)
    {targets : TargetSet} (htargets : progress.run.targets = some targets)
    (haimed : Aimed setup targets progress.store)
    (hstable : replies.IsStable graph vector (Stages.snippets snapshot progress.run.targets))
    {steps : List Fusion.Step}
    (hsteps : Fusion.Steps .standard (inputs setup snapshot progress replies) progress.run.targets
      steps) :
    Agrees setup graph ids records (merged setup snapshot progress replies steps).1 := by
  obtain ⟨hids, hrecords⟩ := h.compared_subset hinformed hkeyed htargets haimed hstable
  have hinfer := logicalEdges_eq setup snapshot progress replies
  constructor
  · intro id hid
    rw [contains_merged htargets haimed hsteps] at hid
    exact h.stored id hid
  · intro id entity hentity hvector
    by_cases hcovers :
        Fusion.Covers (inputs setup snapshot progress replies) progress.run.targets id
    · have hmem := mem_embeddings_of_covers hsteps hcovers hentity hvector
      exact hrecords (List.mem_append_left _ hmem)
    · rw [Survey.merged, Fusion.get?_merge_of_not_covers hsteps hcovers, htargets,
        Fusion.base_some] at hentity
      exact h.vectors id entity hentity hvector
  · rw [Survey.merged, htargets, Fusion.base_some, Fusion.edgesOf_logical_of_known]
    · exact h.logical
    · intro edge hedge
      rw [FusionInputs.inferredEdges_eq fun edge => kind_of_mem_logicalEdges, hinfer] at hedge
      have hknown := Linking.infer_subset hids hrecords hinformed.one hedge
      rw [← inferred, ← h.logical, Store.mem_edgesOf_iff] at hknown
      exact hknown.1
  · rw [Survey.merged, htargets, Fusion.base_some]
    exact Fusion.edgesOf_physical_perm targets (graph_eq hstable) h.physical

/-! ## Passes -/

/-- Whether two stores have the same edges, the same identities and the same vectors. -/
structure Alike (store other : Store) : Prop where
  edges : other.edges = store.edges
  vectors : ∀ id, (other.get? id).map (·.embedding) = (store.get? id).map (·.embedding)

theorem Alike.refl (store : Store) : Alike store store := ⟨rfl, fun _ => rfl⟩

/-- A store that is like one which agrees with what is known does so itself. -/
theorem Alike.agrees {store other : Store} (h : Alike store other)
    (hagrees : Agrees setup graph ids records store) :
    Agrees setup graph ids records other where
  stored id hid := by
    rw [Store.contains_eq_isSome, ← Option.isSome_map, h.vectors, Option.isSome_map,
      ← Store.contains_eq_isSome] at hid
    exact hagrees.stored id hid
  vectors id entity hentity hvector := by
    have hsame := h.vectors id
    rw [hentity, Option.map_some, eq_comm, Option.map_eq_some_iff] at hsame
    obtain ⟨old, hold, hembedding⟩ := hsame
    rw [← hembedding] at hvector ⊢
    exact hagrees.vectors id old hold hvector
  logical := by
    rw [Store.edgesOf, h.edges]
    exact hagrees.logical
  physical := by
    rw [Store.edgesOf, h.edges]
    exact hagrees.physical

/-- An evaluation changes neither edges nor vectors. -/
theorem Finds.alike {found : Findings} (h : Finds setup snapshot progress events found)
    (hkeyed : progress.store.Keyed) :
    Alike (Survey.merged setup snapshot progress found.replies found.steps).1 found.scored := by
  obtain ⟨reply, hgraded⟩ := h.graded hkeyed
  refine ⟨hgraded.edges, ?_⟩
  intro id
  rw [hgraded.lookup, Option.map_map]
  exact Option.map_congr fun entity _ => regraded_embedding reply entity

/-- What a pass leaves of the store: it keeps the store till it comes to its fusion, and then has
the fused one but for scores. -/
inductive StoreAfter (setup : Setup) (snapshot : Snapshot) (progress : Progress)
    (events : List Event) : Store → Prop where
  | unfused {store : Store} (hunfused : .entered .fusing progress.run ∉ events)
      (hstore : store = progress.store) : StoreAfter setup snapshot progress events store
  | fused {replies : AnalysisReplies} {steps : List Fusion.Step} {store : Store}
      (hanswered : .answered (.analyze snapshot progress.run.targets
        (Stages.snippets snapshot progress.run.targets)) replies ∈ events)
      (hsteps : Fusion.Steps .standard (inputs setup snapshot progress replies)
        progress.run.targets steps)
      (halike : Alike (merged setup snapshot progress replies steps).1 store) :
      StoreAfter setup snapshot progress events store

/-- A pass that comes to an evaluation leaves the fused store, but for scores. -/
theorem Evaluates.storeAfter {found : Findings}
    (h : Evaluates setup snapshot progress found events) (hkeyed : progress.store.Keyed)
    (last : List Event) : StoreAfter setup snapshot progress (events ++ last) found.scored := by
  have halike := (h.finds []).alike hkeyed
  cases h with
  | told hfuses hgrades => exact .fused (by simp [analysisEvents]) hfuses.resolves halike

/-- Every pass that ends leaves the store as it was, or the fused one but for scores. -/
theorem storeAfter {ending : PassEnd} (hkeyed : progress.store.Keyed)
    (hpass : (pass setup snapshot progress).Course events (some ending)) :
    StoreAfter setup snapshot progress events ending.reached.store := by
  cases passTrace hpass with
  | unstarted => exact .unfused (by simp [stopEvents]) rfl
  | analyzed replies => exact .unfused (by simp [analysisEvents, stopEvents]) rfl
  | fused hfuses => exact .fused (by simp [analysisEvents]) hfuses.resolves (.refl _)
  | accepted hevaluates hsettle =>
      have hafter := hevaluates.storeAfter hkeyed []
      rw [List.append_nil] at hafter
      exact hafter
  | again hevaluates hopen hnext => exact hevaluates.storeAfter hkeyed _

/-- A pass that asks for another one has come to its fusion. -/
theorem fusing_mem_of_again {next : Progress}
    (hpass : (pass setup snapshot progress).Course events (some (.again next))) :
    .entered .fusing progress.run ∈ events := by
  cases passTrace hpass with
  | again hevaluates hopen hnext =>
      cases hevaluates with
      | told hfuses hgrades => simp [fusionEvents]

/-- The store of a full pass that comes to its fusion agrees with what is known, if parser and
embedder succeed. -/
theorem agrees_of_full_pass {ending : PassEnd} (hkeyed : progress.store.Keyed)
    (hfull : progress.run.targets = none)
    (hpass : (pass setup snapshot progress).Course events (some ending))
    (hfused : .entered .fusing progress.run ∈ events)
    (hstable : ∀ event ∈ events, event.IsStable graph vector)
    (hsucceeds : ∀ event ∈ events, event.succeeds = true) :
    ∃ ids records, Informed graph vector snapshot ids records ∧
      Agrees setup graph ids records ending.reached.store := by
  cases storeAfter hkeyed hpass with
  | unfused hunfused hstore => exact absurd hfused hunfused
  | fused hanswered hsteps halike =>
      have hreplies := hstable _ hanswered
      have hok := hsucceeds _ hanswered
      exact ⟨_, _, informed_of_succeeds hfull hreplies hok,
        halike.agrees (agrees_of_full hfull hreplies hok hsteps)⟩

/-- A selective pass keeps the agreement. -/
theorem Agrees.pass (h : Agrees setup graph ids records progress.store)
    (hinformed : Informed graph vector snapshot ids records) (hkeyed : progress.store.Keyed)
    {targets : TargetSet} (htargets : progress.run.targets = some targets)
    (haimed : Aimed setup targets progress.store) {ending : PassEnd}
    (hpass : (pass setup snapshot progress).Course events (some ending))
    (hstable : ∀ event ∈ events, event.IsStable graph vector) :
    Agrees setup graph ids records ending.reached.store := by
  cases storeAfter hkeyed hpass with
  | unfused hunfused hstore =>
      rw [hstore]
      exact h
  | fused hanswered hsteps halike =>
      exact halike.agrees
        (h.merged hinformed hkeyed htargets haimed (hstable _ hanswered) hsteps)

/-! ## Selective passes in a row -/

/-- Some selective passes after the end of another pass, each of them asked for by the one before
it. -/
inductive Retried (setup : Setup) (snapshot : Snapshot) (ending : PassEnd) :
    List Event → PassEnd → Prop where
  | none : Retried setup snapshot ending [] ending
  | again {events passing : List Event} {before : Progress} {targets : TargetSet}
      {after : PassEnd} (earlier : Retried setup snapshot ending events (.again before))
      (hselective : before.run.targets = some targets)
      (next : (pass setup snapshot before).Course passing (some after)) :
      Retried setup snapshot ending (events ++ passing) after

/-- The passes belong to the survey that the pass before them belongs to. -/
theorem Retried.reaches {rounds : List Round} {ending last : PassEnd} {later : List Event}
    (h : Retried setup snapshot ending later last)
    (hreaches : Reaches setup snapshot run rounds progress)
    (hpass : (Survey.pass setup snapshot progress).Course events (some ending)) {next : Progress}
    (hnext : last = .again next) :
    ∃ rounds, rounds ≠ [] ∧ Reaches setup snapshot run rounds next := by
  induction h generalizing next with
  | none =>
      rw [hnext] at hpass
      exact ⟨_, by simp, hreaches.again hpass⟩
  | again earlier hselective hcourse ih =>
      obtain ⟨rounds, _, hbefore⟩ := ih rfl
      rw [hnext] at hcourse
      exact ⟨_, by simp, hbefore.again hcourse⟩

/-- After any number of selective passes the store agrees with what the full pass knows. -/
theorem Retried.agrees {rounds : List Round} {ending last : PassEnd} {later : List Event}
    (h : Retried setup snapshot ending later last)
    (hreaches : Reaches setup snapshot run rounds progress)
    (hpass : (Survey.pass setup snapshot progress).Course events (some ending))
    (hinformed : Informed graph vector snapshot ids records)
    (hagrees : Agrees setup graph ids records ending.reached.store)
    (hstable : ∀ event ∈ later, event.IsStable graph vector) :
    Agrees setup graph ids records last.reached.store := by
  induction h with
  | none => exact hagrees
  | again earlier hselective hcourse ih =>
      obtain ⟨rounds, hlater, hbefore⟩ := earlier.reaches hreaches hpass rfl
      have hstart := ih fun event hevent => hstable event (List.mem_append_left _ hevent)
      exact hstart.pass hinformed hbefore.keyed hselective (hbefore.aimed hlater hselective) hcourse
        fun event hevent => hstable event (List.mem_append_right _ hevent)

/-- Selective passes keep the edges of a stable repository.  If parser and embedder succeed on a
full pass that comes to its fusion, then after any number of selective passes the logical edges are
those after the full pass, and the physical edges are those of the graph in some order. -/
theorem edges_of_stable_repository {rounds : List Round}
    (hreaches : Reaches setup snapshot run rounds progress) (hfull : progress.run.targets = none)
    {ending last : PassEnd} {later : List Event}
    (hpass : (pass setup snapshot progress).Course events (some ending))
    (hfused : .entered .fusing progress.run ∈ events)
    (hlater : Retried setup snapshot ending later last)
    (hstable : ∀ event ∈ events ++ later, event.IsStable graph vector)
    (hsucceeds : ∀ event ∈ events, event.succeeds = true) :
    last.reached.store.edgesOf .logical = ending.reached.store.edgesOf .logical ∧
      (last.reached.store.edgesOf .physical).Perm graph.physicalEdges := by
  obtain ⟨ids, records, hinformed, hagrees⟩ := agrees_of_full_pass hreaches.keyed hfull hpass
    hfused (fun event hevent => hstable event (List.mem_append_left _ hevent)) hsucceeds
  have hlast := hlater.agrees hreaches hpass hinformed hagrees
    fun event hevent => hstable event (List.mem_append_right _ hevent)
  exact ⟨hlast.logical.trans hagrees.logical.symm, hlast.physical⟩

end Stable

/-! ## Two files that import each other -/

namespace TwoFiles

/-- Each file imports the other. -/
def imports : StructuralGraph where
  nodes := [.new a .file, .new b .file]
  edges := [⟨b, a, "imports"⟩, ⟨a, b, "imports"⟩]

/-- All files have the same vector. -/
def sameVector : EntityId → Vector32 := fun _ => [1]

/-- The replies about the two files: the summary of the second one is missing at first, and then the
embedder fails. -/
def importReplies (snippets : List Snippet) : (analyses : Nat) → AnalysisReplies
  | 0 => {
      summaries := (replies 0).summaries
      graph := .ok imports
      embeddings := .ok (snippets.map fun snippet => ⟨snippet.id, sameVector snippet.id⟩) }
  | analyses => {
      summaries := (replies analyses).summaries
      graph := .ok imports
      embeddings := .timedOut }

/-- The replies about the two files are those about a stable repository. -/
theorem isStable_importReplies (snippets : List Snippet) (analyses : Nat) :
    (importReplies snippets analyses).IsStable imports sameVector snippets := by
  cases analyses with
  | zero =>
      constructor
      · intro reported hreported
        cases hreported
        rfl
      · intro _ records hrecords
        cases hrecords
        exact .refl _
  | succ analyses =>
      constructor
      · intro reported hreported
        cases hreported
        rfl
      · intro _ records hrecords
        cases hrecords

/-- The host of two files that import each other. -/
def importHost : Host Nat where
  cancelled := host.cancelled
  answer
    | .analyze _ _ snippets, analyses => (importReplies snippets analyses, analyses + 1)
    | request, analyses => host.answer request analyses

/-- Whatever is planned, the host answers as a stable repository does. -/
theorem isStable_of_mem_events {plan : Plan α} {analyses : Nat} :
    ∀ event ∈ plan.events importHost analyses, event.IsStable imports sameVector := by
  apply Plan.forall_mem_events
  · intro cancelled
    trivial
  · intro request analyses
    cases request with
    | analyze snapshot targets snippets => exact isStable_importReplies snippets analyses
    | _ => trivial

/-- The progress after the full pass, whose embedder succeeds. -/
def informed : Progress :=
  (((pass setup snapshot (.start run)).run importHost 0).1.bind PassEnd.next?).get
    (by decide +kernel)

/-- The end of the selective pass, whose embedder fails. -/
def retriedEnd : PassEnd :=
  ((pass setup snapshot informed).run importHost 1).1.get (by decide +kernel)

end TwoFiles

/-- Two files are linked by the full pass.  The selective pass that is made for the second file
wipes its vector and swaps its import for itself, but the files stay linked. -/
theorem edges_of_stable_repository_two_files :
    TwoFiles.informed.run.targets = some (OrderedSet.ofElements [TwoFiles.b]) ∧
      similarEdge TwoFiles.a TwoFiles.b ∈ TwoFiles.informed.store.edgesOf .logical ∧
      TwoFiles.retriedEnd.reached.store.edgesOf .logical =
        TwoFiles.informed.store.edgesOf .logical ∧
      (TwoFiles.retriedEnd.reached.store.edgesOf .physical).Perm
        [.physical TwoFiles.b TwoFiles.a "imports", .physical TwoFiles.a TwoFiles.b "imports"] := by
  have htargets : TwoFiles.informed.run.targets =
      some (OrderedSet.ofElements [TwoFiles.b]) := by
    decide +kernel
  have hfull : (pass TwoFiles.setup TwoFiles.snapshot (.start TwoFiles.run)).Course
      ((pass TwoFiles.setup TwoFiles.snapshot (.start TwoFiles.run)).events TwoFiles.importHost 0)
      (some (.again TwoFiles.informed)) :=
    course_again_of_run (Option.some_get _).symm
  have hselective : Retried TwoFiles.setup TwoFiles.snapshot (.again TwoFiles.informed)
      ([] ++ (pass TwoFiles.setup TwoFiles.snapshot TwoFiles.informed).events TwoFiles.importHost 1)
      TwoFiles.retriedEnd :=
    Retried.none.again htargets (Plan.course_run_get _ _ _ _)
  have hedges := edges_of_stable_repository (.start []) TwoFiles.start_targets hfull
    (fusing_mem_of_again hfull) hselective
    (List.forall_mem_append.2
      ⟨TwoFiles.isStable_of_mem_events, TwoFiles.isStable_of_mem_events⟩)
    (by decide +kernel)
  exact ⟨htargets, by decide +kernel, hedges⟩

end Survey
end CodeSurvey
