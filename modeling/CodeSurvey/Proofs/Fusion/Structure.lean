import CodeSurvey.Proofs.Fusion.Specification

/-!
# The shape of a fused entity

The kind, the label and the complexity of an entity come from the parser, whether or not somebody
has summarized it.  Where the parser reports an identity once there is only one node they can come
from.  Where it reports it several times the two paths of a fusion part: an entity that is made of a
summary has the shape of the last node, an entity that is made by the ladder that of the first one.

## Main results

* `Fusion.shape_of_told`: the node that an entity has its shape from.
* `Fusion.shape_eq_iff`: when two full fusions of the same nodes give an entity the same shape.
* `Fusion.shape_eq_of_nodup`: they do so where the parser repeats no identity.
* `Fusion.shape_depends_on_summary`: two full fusions of the same nodes that do not.
-/

namespace CodeSurvey

/-! ## Shapes -/

/-- What the parser has to say about an entity. -/
structure Shape where
  kind : EntityKind
  label : String
  complexity : UInt32
  deriving DecidableEq, Repr

def StructuralNode.shape (node : StructuralNode) : Shape := ⟨node.kind, node.label, node.complexity⟩

def Entity.shape (entity : Entity) : Shape := ⟨entity.kind, entity.label, entity.complexity⟩

theorem Entity.shape_eq_shape_iff (entity : Entity) (node : StructuralNode) :
    entity.shape = node.shape ↔
      entity.kind = node.kind ∧ entity.label = node.label ∧
        entity.complexity = node.complexity := by
  rw [Entity.shape, StructuralNode.shape, Shape.mk.injEq]

namespace FusionInputs

variable {inputs : FusionInputs} {id : EntityId}

/-- Whether there is a summary of an identity. -/
def Summarizes (inputs : FusionInputs) (id : EntityId) : Prop := id ∈ inputs.summaries.map (·.id)

instance (inputs : FusionInputs) (id : EntityId) : Decidable (inputs.Summarizes id) :=
  inferInstanceAs (Decidable (id ∈ inputs.summaries.map (·.id)))

theorem exists_firstNode? (h : id ∈ inputs.graph.nodes.map (·.id)) :
    ∃ node, inputs.firstNode? id = some node :=
  Option.isSome_iff_exists.1 ((Fusion.isSome_find?_id_iff _ _ _).2 h)

theorem exists_lastNode? (h : id ∈ inputs.graph.nodes.map (·.id)) :
    ∃ node, inputs.lastNode? id = some node := by
  refine Option.isSome_iff_exists.1 ((Fusion.isSome_find?_id_iff _ _ _).2 ?_)
  rwa [List.map_reverse, List.mem_reverse]

/-- Where no identity is repeated the first node is the last one. -/
theorem lastNode?_eq_firstNode? (hnodup : (inputs.graph.nodes.map (·.id)).Nodup) :
    inputs.lastNode? id = inputs.firstNode? id := by
  have hreverse : (inputs.graph.nodes.reverse.map (·.id)).Nodup := by
    rw [List.map_reverse]
    exact List.nodup_reverse.2 hnodup
  ext node
  rw [lastNode?, firstNode?, Fusion.find?_id_eq_some_iff hreverse,
    Fusion.find?_id_eq_some_iff hnodup, List.mem_reverse]

theorem summarizes_iff : inputs.Summarizes id ↔ ∃ record, inputs.lastSummary? id = some record := by
  rw [← Option.isSome_iff_exists, Option.isSome_iff_ne_none, Ne, lastSummary?_eq_none_iff, not_not,
    Summarizes]

/-- The inputs without the summaries of an identity. -/
def withoutSummary (inputs : FusionInputs) (id : EntityId) : FusionInputs :=
  { inputs with summaries := inputs.summaries.filter fun record => record.id ≠ id }

/-- The node that an entity has its shape from. -/
def shapingNode? (inputs : FusionInputs) (id : EntityId) : Option StructuralNode :=
  if inputs.Summarizes id then inputs.lastNode? id else inputs.firstNode? id

end FusionInputs

namespace Fusion

section Shapes

variable {ladder other : Ladder} {ensembleMode otherMode : Bool} {inputs more : FusionInputs}
  {store old : Store} {events calls : List Event} {id : EntityId}
  {outcome : StructuralNode → Option LadderOutcome} {result second : Option (Store × FusionReport)}

/-- An entity that the inputs tell has the shape of its shaping node. -/
theorem shape_of_told {entity : Entity} {node : StructuralNode}
    (htold : told ensembleMode inputs outcome id = some entity)
    (hnode : inputs.shapingNode? id = some node) : entity.shape = node.shape := by
  rw [FusionInputs.shapingNode?] at hnode
  rw [told] at htold
  cases hrecord : inputs.lastSummary? id with
  | some record =>
      obtain rfl := FusionInputs.id_of_lastSummary? hrecord
      rw [if_pos (FusionInputs.summarizes_iff.2 ⟨record, hrecord⟩)] at hnode
      simp only [hrecord, Option.some.injEq] at htold
      rw [Entity.shape_eq_shape_iff, ← htold]
      exact (ofSummary_primaryEntity record).ofLastNode node hnode
  | none =>
      have hsummary : ¬inputs.Summarizes id := by
        simp [FusionInputs.summarizes_iff, hrecord]
      rw [if_neg hsummary] at hnode
      simp only [hrecord, hnode, Option.map_some, Option.some.injEq] at htold
      rw [Entity.shape_eq_shape_iff, ← htold]
      exact (ofNode_nodeEntity (vectorsById inputs.embeddings) node (outcome node)).structural

/-- Whether a fusion ends with an entity under an identity. -/
def Stores (result : Option (Store × FusionReport)) (id : EntityId) (entity : Entity) : Prop :=
  ∃ fused, result = some fused ∧ fused.1.get? id = some entity

/-- A full fusion stores every identity of a node in the shape of its shaping node. -/
theorem stores_shape {node : StructuralNode} (hid : id.isEmpty = false)
    (hnode : inputs.shapingNode? id = some node) (hmem : id ∈ inputs.graph.nodes.map (·.id))
    (hcourse : (fuse ladder ensembleMode inputs none store).Course events result) :
    ∃ entity, Stores result id entity ∧ entity.shape = node.shape := by
  obtain ⟨outcome, -, rfl⟩ := course_fuse_by hcourse
  obtain ⟨entity, hentity⟩ := Option.isSome_iff_exists.1
    ((isSome_told_iff ensembleMode inputs outcome id).2 (.inr hmem))
  refine ⟨entity, ⟨_, rfl, ?_⟩, shape_of_told hentity hnode⟩
  rw [get?_merge, if_pos ((takesPart_none id).2 hid), hentity, Option.some_or]

/-- Two full fusions of the same nodes, whatever else is fused and however, give an entity the same
shape exactly if both have a summary of it or neither has, or if it makes no difference: the first
and the last node of its identity have the same shape. -/
theorem shape_eq_iff (hid : id.isEmpty = false) (hmem : id ∈ inputs.graph.nodes.map (·.id))
    (hnodes : more.graph.nodes = inputs.graph.nodes)
    (hcourse : (fuse ladder ensembleMode inputs none store).Course events result)
    (hsecond : (fuse other otherMode more none old).Course calls second) :
    ∃ first last entity again, inputs.firstNode? id = some first ∧
      inputs.lastNode? id = some last ∧ Stores result id entity ∧ Stores second id again ∧
      entity.shape = (if inputs.Summarizes id then last else first).shape ∧
      again.shape = (if more.Summarizes id then last else first).shape ∧
      (entity.shape = again.shape ↔
        (inputs.Summarizes id ↔ more.Summarizes id) ∨ first.shape = last.shape) := by
  obtain ⟨first, hfirst⟩ := FusionInputs.exists_firstNode? hmem
  obtain ⟨last, hlast⟩ := FusionInputs.exists_lastNode? hmem
  have hshaping : inputs.shapingNode? id = some (if inputs.Summarizes id then last else first) := by
    rw [FusionInputs.shapingNode?, hfirst, hlast, apply_ite some]
  have hagain : more.shapingNode? id = some (if more.Summarizes id then last else first) := by
    rw [FusionInputs.shapingNode?, FusionInputs.lastNode?, FusionInputs.firstNode?, hnodes,
      ← FusionInputs.lastNode?, ← FusionInputs.firstNode?, hfirst, hlast, apply_ite some]
  obtain ⟨entity, hentity, hshape⟩ := stores_shape hid hshaping hmem hcourse
  obtain ⟨again, hstored, hsame⟩ := stores_shape hid hagain (hnodes ▸ hmem) hsecond
  refine ⟨first, last, entity, again, hfirst, hlast, hentity, hstored, hshape, hsame, ?_⟩
  rw [hshape, hsame]
  by_cases hsummary : inputs.Summarizes id <;> by_cases hmore : more.Summarizes id <;>
    simp [hsummary, hmore, eq_comm]

/-- Where the parser repeats no identity the shape of an entity does not depend on summaries. -/
theorem shape_eq_of_nodup (hnodup : (inputs.graph.nodes.map (·.id)).Nodup)
    (hid : id.isEmpty = false) (hmem : id ∈ inputs.graph.nodes.map (·.id))
    (hnodes : more.graph.nodes = inputs.graph.nodes)
    (hcourse : (fuse ladder ensembleMode inputs none store).Course events result)
    (hsecond : (fuse other otherMode more none old).Course calls second) :
    ∃ entity again, Stores result id entity ∧ Stores second id again ∧
      entity.shape = again.shape := by
  obtain ⟨first, last, entity, again, hfirst, hlast, hentity, hagain, -, -, hiff⟩ :=
    shape_eq_iff hid hmem hnodes hcourse hsecond
  have hsame : first = last := by
    rw [FusionInputs.lastNode?_eq_firstNode? hnodup, hfirst] at hlast
    exact Option.some.inj hlast
  exact ⟨entity, again, hentity, hagain, hiff.2 (.inr (congrArg StructuralNode.shape hsame))⟩

end Shapes

end Fusion

/-! ## A file that is reported twice -/

namespace TwoNodes

def a : EntityId := ⟨"a.py"⟩

/-- The parser reports the file again as a class. -/
def graph : StructuralGraph where
  nodes := [
    { StructuralNode.new a .file with label := "first", complexity := 1 },
    { StructuralNode.new a .classType with label := "last", complexity := 2 }]
  edges := []

/-- The file is summarized. -/
def summarized : FusionInputs := ⟨[⟨a, "Reads.", 1, .file, []⟩], graph, [], []⟩

/-- The summarizer has passed the file over. -/
def unsummarized : FusionInputs := summarized.withoutSummary a

/-- A host whose cache has a summary of everything. -/
def host : Host Unit where
  cancelled _ := false
  answer
    | .attemptTier .., state => (.ok (some "Reads."), state)
    | request, state => (request.anyAnswer, state)

def plan (inputs : FusionInputs) : Plan (Store × FusionReport) :=
  Fusion.fuse [.custom "cache"] true inputs none .empty

/-- What a full fusion ends with. -/
def result (inputs : FusionInputs) : Option (Store × FusionReport) :=
  ((plan inputs).run host ()).1

theorem course (inputs : FusionInputs) :
    (plan inputs).Course ((plan inputs).events host ()) (result inputs) :=
  Plan.course_run host (plan inputs) ()

end TwoNodes

namespace Fusion

/-- The file is stored as a class if it is summarized, and as a file if not. -/
theorem shape_eq_iff_two_nodes :
    ∃ entity again, Stores (TwoNodes.result TwoNodes.summarized) TwoNodes.a entity ∧
      Stores (TwoNodes.result TwoNodes.unsummarized) TwoNodes.a again ∧
      entity.shape = ⟨.classType, "last", 2⟩ ∧ again.shape = ⟨.file, "first", 1⟩ := by
  have hid : TwoNodes.a.isEmpty = false := by
    decide +kernel
  have hnodes : TwoNodes.unsummarized.graph.nodes = TwoNodes.summarized.graph.nodes := rfl
  obtain ⟨first, last, entity, again, hfirst, hlast, hentity, hagain, hshape, hsame, -⟩ :=
    shape_eq_iff hid (by decide +kernel) hnodes (TwoNodes.course TwoNodes.summarized)
      (TwoNodes.course TwoNodes.unsummarized)
  rw [if_pos (by decide +kernel)] at hshape
  rw [if_neg (by decide +kernel)] at hsame
  cases hfirst
  cases hlast
  exact ⟨entity, again, hentity, hagain, hshape, hsame⟩

/-- The shape of an entity may depend on whether it is summarized. -/
theorem shape_depends_on_summary :
    ¬ ∀ (ladder : Ladder) (ensembleMode : Bool) (inputs : FusionInputs) (store : Store)
        (id : EntityId) (events calls : List Event) (result second : Option (Store × FusionReport))
        (entity again : Entity),
      id.isEmpty = false → id ∈ inputs.graph.nodes.map (·.id) → inputs.Summarizes id →
      (fuse ladder ensembleMode inputs none store).Course events result →
      (fuse ladder ensembleMode (inputs.withoutSummary id) none store).Course calls second →
      Stores result id entity → Stores second id again →
      entity.kind = again.kind ∧ entity.label = again.label ∧
        entity.complexity = again.complexity := by
  intro hindependent
  have hentity : ((TwoNodes.result TwoNodes.summarized).bind (·.1.get? TwoNodes.a)).map (·.shape) =
      some ⟨.classType, "last", 2⟩ := by
    decide +kernel
  have hagain : ((TwoNodes.result TwoNodes.unsummarized).bind (·.1.get? TwoNodes.a)).map
      (·.shape) = some ⟨.file, "first", 1⟩ := by
    decide +kernel
  simp only [Option.map_eq_some_iff, Option.bind_eq_some_iff] at hentity hagain
  obtain ⟨entity, hstored, hshape⟩ := hentity
  obtain ⟨again, hother, hsame⟩ := hagain
  obtain ⟨hkind, -, -⟩ := hindependent [.custom "cache"] true TwoNodes.summarized .empty TwoNodes.a
    _ _ _ _ entity again (by decide +kernel) (by decide +kernel) (by decide +kernel)
    (TwoNodes.course TwoNodes.summarized) (TwoNodes.course TwoNodes.unsummarized) hstored hother
  have hclass : entity.kind = .classType := congrArg Shape.kind hshape
  have hfile : again.kind = .file := congrArg Shape.kind hsame
  rw [hclass, hfile] at hkind
  cases hkind

end Fusion
end CodeSurvey
