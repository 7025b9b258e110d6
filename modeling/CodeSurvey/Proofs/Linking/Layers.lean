import CodeSurvey.Proofs.Linking.Distinct

/-!
# Which links names tell

Names tell a link between two files if these have the same stem, which must not be too short, and
belong to adjacent layers.  A link is told once, whatever is repeated among the identities, and
their order matters for nothing but the order of the links.

## Main results

* `Linking.mem_layerEdges_iff`: the links that are told.
* `Linking.layerEdges_subset`: more identities tell more links.
* `Linking.layerEdges_perm`: the links depend only on which identities there are.
* `Linking.layer_links`: both, and that no link is told twice or leads from a file to itself.
-/

namespace CodeSurvey
namespace Linking

variable {ids allIds : List EntityId}

/-! ## Adjacent files -/

/-- Whether names tell a link from one identity to another: both are files among the identities,
their stems agree and have more than two bytes, and their layers are adjacent. -/
structure Adjacent (ids : List EntityId) (source target : EntityId) (relation : String) : Prop where
  source_file : source ∈ ids ∧ source.isNested = false
  target_file : target ∈ ids ∧ target.isNested = false
  stem_eq : Stem.ofId source = Stem.ofId target
  stem_long : 2 < (Stem.ofId source).utf8ByteSize
  layers : (Layer.detect source, Layer.detect target, relation) ∈ [
    (Layer.presentation, Layer.service, "architectural_flow"),
    (Layer.service, Layer.repository, "data_access"),
    (Layer.service, Layer.domain, "uses_model")]

theorem notMem_adjacentLayers (layer : Layer) (relation : String) :
    (layer, layer, relation) ∉ adjacentLayers := by
  cases layer <;> simp [adjacentLayers]

/-- No file lies in a layer adjacent to its own. -/
theorem Adjacent.ne {source target : EntityId} {relation : String}
    (h : Adjacent ids source target relation) : source ≠ target := by
  rintro rfl
  exact notMem_adjacentLayers _ relation h.layers

theorem Adjacent.mono {source target : EntityId} {relation : String} (hids : ids ⊆ allIds)
    (h : Adjacent ids source target relation) : Adjacent allIds source target relation where
  source_file := h.source_file.imp_left fun hid => hids hid
  target_file := h.target_file.imp_left fun hid => hids hid
  stem_eq := h.stem_eq
  stem_long := h.stem_long
  layers := h.layers

/-- The candidates are the files among the identities, with their layers and stems. -/
theorem mem_candidates {candidate : Candidate} (h : candidate ∈ candidates ids) :
    (candidate.id ∈ ids ∧ candidate.id.isNested = false) ∧
      candidate.layer = Layer.detect candidate.id ∧ candidate.stem = Stem.ofId candidate.id := by
  simp only [candidates, List.mem_map, List.mem_eraseDups, List.mem_filter,
    Bool.not_eq_true'] at h
  obtain ⟨id, hfile, rfl⟩ := h
  dsimp only
  exact ⟨hfile, rfl, rfl⟩

theorem exists_candidate {id : EntityId} (h : id ∈ ids ∧ id.isNested = false) :
    ∃ candidate ∈ candidates ids, candidate.id = id ∧ candidate.layer = Layer.detect id ∧
      candidate.stem = Stem.ofId id := by
  simp only [candidates, List.mem_map, List.mem_eraseDups, List.mem_filter, Bool.not_eq_true']
  exact ⟨_, ⟨id, h, rfl⟩, by simp only, by simp only, by simp only⟩

theorem sharesStem_iff (source target : Candidate) :
    sharesStem source target = true ↔
      2 < source.stem.utf8ByteSize ∧ source.stem = target.stem := by
  rw [sharesStem, Bool.and_eq_true, decide_eq_true_eq, beq_iff_eq]
  rfl

theorem mem_linksBetween_iff (all : List Candidate) (source target : Layer) (relation : String)
    (edge : Edge) :
    edge ∈ linksBetween all source target relation ↔
      ∃ s ∈ all, s.layer = source ∧ ∃ t ∈ all, t.layer = target ∧
        sharesStem s t = true ∧ Edge.logical s.id t.id relation = edge := by
  simp only [linksBetween, List.mem_flatMap, List.mem_map, List.mem_filter, decide_eq_true_eq,
    and_assoc]

/-- Names tell exactly the links between adjacent files. -/
theorem mem_layerEdges_iff (edge : Edge) :
    edge ∈ layerEdges ids ↔
      ∃ source target relation, edge = .logical source target relation ∧
        Adjacent ids source target relation := by
  simp only [layerEdges, List.mem_flatMap, Prod.exists, mem_linksBetween_iff, sharesStem_iff]
  constructor
  · rintro ⟨_, _, relation, hlayers, s, hs, rfl, t, ht, rfl, ⟨hlong, hstem⟩, rfl⟩
    obtain ⟨hsource, hslayer, hsstem⟩ := mem_candidates hs
    obtain ⟨htarget, htlayer, htstem⟩ := mem_candidates ht
    rw [hslayer, htlayer] at hlayers
    rw [hsstem] at hlong
    rw [hsstem, htstem] at hstem
    exact ⟨s.id, t.id, relation, rfl, hsource, htarget, hstem, hlong, hlayers⟩
  · rintro ⟨source, target, relation, rfl, hsource, htarget, hstem, hlong, hlayers⟩
    obtain ⟨s, hs, rfl, hslayer, hsstem⟩ := exists_candidate hsource
    obtain ⟨t, ht, rfl, htlayer, htstem⟩ := exists_candidate htarget
    rw [← hslayer, ← htlayer] at hlayers
    rw [← hsstem] at hlong
    rw [← hsstem, ← htstem] at hstem
    exact ⟨_, _, relation, hlayers, s, hs, rfl, t, ht, rfl, ⟨hlong, hstem⟩, rfl⟩

/-! ## Order and repetitions -/

/-- More identities tell more links. -/
theorem layerEdges_subset (h : ids ⊆ allIds) : layerEdges ids ⊆ layerEdges allIds := by
  intro edge hedge
  obtain ⟨source, target, relation, rfl, hadjacent⟩ := (mem_layerEdges_iff edge).1 hedge
  exact (mem_layerEdges_iff _).2 ⟨source, target, relation, rfl, hadjacent.mono h⟩

/-- The links depend only on which identities there are, up to their order. -/
theorem layerEdges_perm {others : List EntityId} (h : ∀ id, id ∈ others ↔ id ∈ ids) :
    (layerEdges others).Perm (layerEdges ids) := by
  rw [List.perm_ext_iff_of_nodup (layerEdges_nodup others) (layerEdges_nodup ids)]
  exact fun edge => ⟨fun hedge => layerEdges_subset (fun id => (h id).1) hedge,
    fun hedge => layerEdges_subset (fun id => (h id).2) hedge⟩

/-- Names tell exactly the links between adjacent files, each one once and none from a file to
itself.  Another order of the identities, or further repetitions of them, change at most the order
of the links. -/
theorem layer_links (ids : List EntityId) :
    (∀ edge, edge ∈ layerEdges ids ↔
      ∃ source target relation, edge = .logical source target relation ∧
        Adjacent ids source target relation) ∧
    (layerEdges ids).Nodup ∧
    (∀ edge ∈ layerEdges ids, edge.source ≠ edge.target) ∧
    ∀ others : List EntityId, (∀ id, id ∈ others ↔ id ∈ ids) →
      (layerEdges others).Perm (layerEdges ids) := by
  refine ⟨mem_layerEdges_iff, layerEdges_nodup ids, fun edge hedge => ?_,
    fun others => layerEdges_perm⟩
  obtain ⟨source, target, relation, rfl, hadjacent⟩ := (mem_layerEdges_iff edge).1 hedge
  exact hadjacent.ne

end Linking

/-! ## The files of an order -/

namespace OrderFiles

def controller : EntityId := ⟨"app/OrderController.ts"⟩

def service : EntityId := ⟨"app/order_service.py"⟩

def repository : EntityId := ⟨"db/order_repo.py"⟩

/-- A repeated file, a symbol, the empty identity and a file with a stem of its own. -/
def ids : List EntityId :=
  [repository, ⟨""⟩, service, controller, service, .nested service.text "order_model", ⟨"api.py"⟩]

/-- The same identities in another order and with other repetitions. -/
def others : List EntityId :=
  [.nested service.text "order_model", controller, ⟨"api.py"⟩, service, ⟨""⟩, repository, ⟨""⟩]

end OrderFiles

namespace Linking

/-- The service is linked with the other two files, in whatever order the files are given. -/
theorem layer_links_order_files :
    layerEdges OrderFiles.ids = [
        .logical OrderFiles.controller OrderFiles.service "architectural_flow",
        .logical OrderFiles.service OrderFiles.repository "data_access"] ∧
      (layerEdges OrderFiles.others).Perm (layerEdges OrderFiles.ids) ∧
      OrderFiles.service ≠ OrderFiles.repository := by
  obtain ⟨-, -, hloops, horder⟩ := layer_links OrderFiles.ids
  have hedges : layerEdges OrderFiles.ids = [
      .logical OrderFiles.controller OrderFiles.service "architectural_flow",
      .logical OrderFiles.service OrderFiles.repository "data_access"] := by
    decide +kernel
  have hfewer : ∀ id ∈ OrderFiles.others, id ∈ OrderFiles.ids := by decide +kernel
  have hmore : ∀ id ∈ OrderFiles.ids, id ∈ OrderFiles.others := by decide +kernel
  exact ⟨hedges, horder OrderFiles.others fun id => ⟨hfewer id, hmore id⟩,
    hloops (.logical OrderFiles.service OrderFiles.repository "data_access")
      (hedges ▸ List.mem_cons_of_mem _ List.mem_cons_self)⟩

end Linking
end CodeSurvey
