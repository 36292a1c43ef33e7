import Dataflow.Proofs.Repair.Detour
import Dataflow.Proofs.Repair.Reach
import Dataflow.Proofs.Repair.Verdict
import Dataflow.Proofs.Settled

/-! Whether a repaired workflow is settled.

Repair fills, feeds and converts what it was given, and leaves what it inserted as it is. So
a given node stays unsettled only if its own default is the empty text
(`Completion.filled_completeNode_iff`), or if another node of its id stands in the way of
feeding it (`Stages.fed_given_iff`); of the edges only those of converters can need a
converter still (`Stages.Repairs.not_convertible`). With what holds of inserted nodes this
says when a second repair is idle (`settled_of_repair`). -/
namespace Dataflow

/-! ### Fields -/

namespace Completion

/-- A field has no default but the empty text, nor has any other field of its key: it is filled
and stays unset. -/
def StaysEmpty (type : String) (fields : List ConfigField) (config : Config) : Prop :=
  ∃ field ∈ fields, config.unset field.key = true ∧ default? type field = some (.string "") ∧
    ∀ other ∈ fields, other.key = field.key →
      ∀ value, default? type other = some value → value = .string ""

/-- A completed node has nothing left to fill, unless a field stays empty. -/
theorem filled_completeNode_iff {catalog : NodeCatalog} {node : Node} :
    Filled catalog (completeNode catalog node).1 ↔ ∀ d, catalog.definition node.type = some d →
      ¬ StaysEmpty node.type d.requiredFields node.config := by
  rw [Filled, completeNode_type]
  refine forall₂_congr fun d found => ?_
  have config : (completeNode catalog node).1.config =
      (fill node.id node.type d.requiredFields node.config).1 := by
    simp [completeNode, found]
  simp only [config, unset_fill_iff]
  constructor
  · intro filled stays
    obtain ⟨field, mem, unset, empty, others⟩ := stays
    rw [filled field mem ⟨unset, others⟩] at empty
    cases empty
  · intro settled field mem unset
    refine Option.eq_none_iff_forall_ne_some.mpr fun value some => settled ?_
    exact ⟨field, mem, unset.1, unset.2 field mem rfl value some ▸ some, unset.2⟩

end Completion

/-! ### Edges -/

namespace Stages

namespace Repairs

variable {catalog : NodeCatalog} {offset : Float} {d : Draft} {s : Stages}
  {feeds : List Repair.Source.Feed} {detours : List Repair.Converter.Detour}
  (repairs : Repairs catalog offset d s feeds detours)
include repairs

/-- The edges to an id are those from before and those that feed it, unless it is a
converter's. -/
theorem indegree_of_not_converter {id : String} (off : id ∉ detours.map (·.nodeId)) :
    indegree s.result.fixedEdges id =
      indegree d.edges.toList id + (feeds.map (·.target.id)).count id := by
  refine (repairs.indegree_converted id).trans ?_
  rw [List.count_eq_zero.mpr off, Nat.add_zero]

theorem indegree_given {id : String} (mem : id ∈ d.nodes.toList.map (·.id)) :
    indegree s.result.fixedEdges id =
      indegree d.edges.toList id + (feeds.map (·.target.id)).count id := by
  refine repairs.indegree_of_not_converter ?_
  have apart := repairs.converting.apart.not_mem id
  rw [repairs.feeding.nodes, List.map_append, Repair.Converter.ids_converters] at apart
  exact apart (List.mem_append_left _ mem)

theorem indegree_source {id : String} (mem : id ∈ feeds.map (·.sourceId)) :
    indegree s.result.fixedEdges id = indegree d.edges.toList id := by
  have others : id ∉ detours.map (·.nodeId) := (List.nodup_append'.mp repairs.nodup_new).2.2 mem
  have unfed : id ∉ feeds.map (·.target.id) :=
    fun target => repairs.target_not_mem_new target (List.mem_append_left _ mem)
  rw [repairs.indegree_of_not_converter others, List.count_eq_zero.mpr unfed, Nat.add_zero]

theorem indegree_converter {id : String} (mem : id ∈ detours.map (·.nodeId)) :
    indegree s.result.fixedEdges id ≠ 0 := by
  have one := List.count_pos_iff.mpr mem
  have total : indegree s.result.fixedEdges id = _ := repairs.indegree_converted id
  omega

/-- Only edges of converters may need a converter still. -/
theorem not_convertible {e : Edge} (mem : e ∈ s.result.fixedEdges) (off : ¬ s.OnConverter e)
    (type : String) :
    Port.connection? catalog s.result.fixedNodes e ≠ some (.convertible type) := by
  rw [repairs.connection?_converted off]
  intro connected
  -- The edge was kept, but its plan leads it through a converter: plans look at the edge only.
  obtain ⟨plan, planned, kept⟩ := repairs.kept_of_not_onConverter mem off
  obtain ⟨e, e_mem, eq⟩ := List.mem_map.mp planned
  obtain ⟨rfl, rfl⟩ := Prod.mk.inj eq
  obtain ⟨position, through⟩ :=
    (Repair.Converter.ofEdge_eq_through_iff repairs.feeding.indexed e_mem).mp connected
  exact kept type position (repairs.ports ▸ through)

end Repairs

/-- What it takes for a repair to leave nothing behind that repair could clear. -/
structure Lasting (catalog : NodeCatalog) (nodes : List Node) (edges : List Edge) (s : Stages) :
    Prop where
  /-- Completion leaves no field of a given node at the empty text. -/
  completed : ∀ node ∈ nodes, ∀ d, catalog.definition node.type = some d →
    ¬ Completion.StaysEmpty node.type d.requiredFields node.config
  /-- Where a given node lacks an input, the first node of its id requires one too. -/
  feedable : ∀ node ∈ nodes, Port.Supply.required catalog node.type ≠ [] →
    indegree edges node.id = 0 → ∃ first, (nodes.find? fun n => n.id == node.id) = some first ∧
      Port.Supply.required catalog first.type ≠ []
  /-- An inserted node has no entry left to fill. -/
  inserted : ∀ node ∈ s.result.insertedNodes, Completion.Filled catalog node
  /-- A source requires no input, or an edge led to its id before it was there. -/
  sources : ∀ source ∈ s.sources, Port.Supply.required catalog source.type ≠ [] →
    indegree edges source.id ≠ 0
  /-- An edge of a converter needs no other one. -/
  converters : ∀ e ∈ s.result.fixedEdges, s.OnConverter e → ∀ type,
    Port.connection? catalog s.result.fixedNodes e ≠ some (.convertible type)

/-! ### Given nodes -/

section
variable {catalog : NodeCatalog} {nodes : List Node} {edges : List Edge} {offset : Float}
  {feeds : List Repair.Source.Feed} {detours : List Repair.Converter.Detour}
  (repairs : Repairs catalog offset (draft catalog nodes edges)
    (run catalog ⟨true, offset⟩ nodes edges) feeds detours)
include repairs

/-- The nodes that are fed are those that lack an input, and have a port to feed. -/
theorem fed_targets : feeds.map (·.target.id) =
    (Repair.Source.targets (run catalog ⟨true, offset⟩ nodes edges).inputs).filter fun id =>
      (Repair.Source.target? catalog (draft catalog nodes edges) id).isSome := by
  rw [← Repair.Source.ids_filterMap_target? catalog _ (indexed_draft catalog nodes edges),
    ← repairs.fed, List.map_map]
  rfl

/-- A node that lacks its input is fed, unless the first node of its id requires none. -/
theorem mem_fed_iff {node : Node} (mem : node ∈ nodes)
    (requires : Port.Supply.required catalog node.type ≠ []) (unfed : indegree edges node.id = 0) :
    node.id ∈ feeds.map (·.target.id) ↔
      ∃ first, (nodes.find? fun n => n.id == node.id) = some first ∧
        Port.Supply.required catalog first.type ≠ [] := by
  have reported : node.id ∈
      Repair.Source.targets (run catalog ⟨true, offset⟩ nodes edges).inputs := by
    rw [repairs.inputs, Repair.Source.mem_targets_iff]
    refine ⟨(Completion.completeNode catalog node).1, List.mem_map_of_mem mem, ?_⟩
    rw [Completion.completeNode_id, Completion.completeNode_type]
    exact ⟨rfl, requires, unfed⟩
  have completed (id : String) :
      ((draft catalog nodes edges).nodes.toList.find? fun n => n.id == id) =
        (nodes.find? fun n => n.id == id).map fun n => (Completion.completeNode catalog n).1 :=
    Completion.find?_nodes catalog nodes id
  rw [fed_targets repairs, List.mem_filter, and_iff_right reported,
    Repair.Source.isSome_target?_iff catalog (indexed_draft catalog nodes edges)]
  simp [completed, Completion.completeNode_type]

theorem forall_filled_iff :
    (∀ node ∈ (run catalog ⟨true, offset⟩ nodes edges).result.fixedNodes,
        Completion.Filled catalog node) ↔
      (∀ node ∈ nodes, ∀ d, catalog.definition node.type = some d →
        ¬ Completion.StaysEmpty node.type d.requiredFields node.config) ∧
      ∀ node ∈ (run catalog ⟨true, offset⟩ nodes edges).result.insertedNodes,
        Completion.Filled catalog node := by
  have completed : (∀ node ∈ (draft catalog nodes edges).nodes.toList,
      Completion.Filled catalog node) ↔ ∀ node ∈ nodes, ∀ d,
        catalog.definition node.type = some d →
          ¬ Completion.StaysEmpty node.type d.requiredFields node.config := by
    simp [draft, Draft.ofLists, Completion.ofNodes, Completion.filled_completeNode_iff]
  rw [repairs.fixedNodes_eq rfl, List.forall_mem_append, completed]

/-- A given node is fed if an edge led to it, or a source was inserted for its id. -/
theorem fed_given_iff {node : Node} (mem : node ∈ nodes)
    (requires : Port.Supply.required catalog node.type ≠ []) :
    indegree (run catalog ⟨true, offset⟩ nodes edges).result.fixedEdges node.id ≠ 0 ↔
      (indegree edges node.id = 0 → ∃ first, (nodes.find? fun n => n.id == node.id) = some first ∧
        Port.Supply.required catalog first.type ≠ []) := by
  have given : node.id ∈ (draft catalog nodes edges).nodes.toList.map (·.id) := by
    rw [ids_draft]
    exact List.mem_map_of_mem mem
  have total : _ = indegree edges node.id + _ := repairs.indegree_given given
  by_cases unfed : indegree edges node.id = 0
  · rw [total, unfed, Nat.zero_add, ← Nat.pos_iff_ne_zero, List.count_pos_iff,
      mem_fed_iff repairs mem requires unfed]
    simp
  · simp [total, unfed]

theorem forall_fed_iff :
    (∀ node ∈ (run catalog ⟨true, offset⟩ nodes edges).result.fixedNodes,
        Port.Supply.required catalog node.type ≠ [] →
          indegree (run catalog ⟨true, offset⟩ nodes edges).result.fixedEdges node.id ≠ 0) ↔
      (∀ node ∈ nodes, Port.Supply.required catalog node.type ≠ [] →
        indegree edges node.id = 0 → ∃ first, (nodes.find? fun n => n.id == node.id) = some first ∧
          Port.Supply.required catalog first.type ≠ []) ∧
      ∀ source ∈ (run catalog ⟨true, offset⟩ nodes edges).sources,
        Port.Supply.required catalog source.type ≠ [] → indegree edges source.id ≠ 0 := by
  have given : (∀ node ∈ (draft catalog nodes edges).nodes.toList,
      Port.Supply.required catalog node.type ≠ [] →
        indegree (run catalog ⟨true, offset⟩ nodes edges).result.fixedEdges node.id ≠ 0) ↔
      ∀ node ∈ nodes, Port.Supply.required catalog node.type ≠ [] →
        indegree (run catalog ⟨true, offset⟩ nodes edges).result.fixedEdges node.id ≠ 0 := by
    simp [draft, Draft.ofLists, Completion.ofNodes, Completion.completeNode_id,
      Completion.completeNode_type]
  have converters : ∀ node ∈ (run catalog ⟨true, offset⟩ nodes edges).converters,
      Port.Supply.required catalog node.type ≠ [] →
        indegree (run catalog ⟨true, offset⟩ nodes edges).result.fixedEdges node.id ≠ 0 := by
    rw [repairs.converters_eq, List.forall_mem_map]
    exact fun detour mem _ => repairs.indegree_converter (List.mem_map_of_mem mem)
  have sources : ∀ source ∈ (run catalog ⟨true, offset⟩ nodes edges).sources,
      indegree (run catalog ⟨true, offset⟩ nodes edges).result.fixedEdges source.id =
        indegree edges source.id := by
    rw [repairs.sources_eq rfl, List.forall_mem_map]
    exact fun feed mem => repairs.indegree_source (List.mem_map_of_mem mem)
  rw [repairs.fixedNodes_eq rfl, repairs.insertedNodes_eq, List.forall_mem_append,
    List.forall_mem_append, and_iff_left converters, given]
  refine and_congr (forall₂_congr fun node mem => ?_) (forall₂_congr fun source mem => ?_)
  · exact forall_congr' fun requires => fed_given_iff repairs mem requires
  · rw [sources source mem]

/-- A repaired workflow is settled just if the repair lasts. -/
theorem settled_repaired_iff :
    Settled catalog (run catalog ⟨true, offset⟩ nodes edges).result.fixedNodes
        (run catalog ⟨true, offset⟩ nodes edges).result.fixedEdges ↔
      Lasting catalog nodes edges (run catalog ⟨true, offset⟩ nodes edges) := by
  constructor
  · intro settled
    have filled := (forall_filled_iff repairs).mp settled.filled
    have fed := (forall_fed_iff repairs).mp settled.fed
    exact {
      completed := filled.1
      feedable := fed.1
      inserted := filled.2
      sources := fed.2
      converters := fun e mem _ => settled.connected e mem }
  · intro lasting
    refine ⟨(forall_filled_iff repairs).mpr ⟨lasting.completed, lasting.inserted⟩,
      (forall_fed_iff repairs).mpr ⟨lasting.feedable, lasting.sources⟩, fun e mem => ?_⟩
    by_cases on : (run catalog ⟨true, offset⟩ nodes edges).OnConverter e
    · exact lasting.converters e mem on
    · exact repairs.not_convertible mem on

end

end Stages

/-- **A second repair finds nothing to clear and changes nothing** just if the first one lasts:
it leaves no field at the empty text, no node unfed behind another one of its id, no inserted
node that lacks something itself, and no edge of a converter that needs another one. -/
theorem settled_of_repair (catalog : NodeCatalog) (nodes : List Node) (edges : List Edge)
    (offset : Float) :
    let stages := Stages.run catalog ⟨true, offset⟩ nodes edges
    let repaired := validate catalog ⟨true, offset⟩ nodes edges
    let again := validate catalog ⟨true, offset⟩ repaired.fixedNodes repaired.fixedEdges
    ((∀ issue ∈ again.issues, issue.autoFixable = false) ∧ again.insertedNodes = [] ∧
        again.fixedNodes = repaired.fixedNodes ∧ again.fixedEdges = repaired.fixedEdges) ↔
      stages.Lasting catalog nodes edges := by
  intro stages repaired again
  obtain ⟨feeds, detours, repairs⟩ := Stages.exists_repairs catalog nodes edges offset
  refine Iff.trans ?_ (Stages.settled_repaired_iff repairs)
  constructor
  · exact fun quiet => Stages.forall_not_autoFixable_iff_settled.mp quiet.1
  · exact fun settled =>
      ⟨Stages.forall_not_autoFixable_iff_settled.mpr settled, settled.result_eq ⟨true, offset⟩⟩

/-- The converter requires an entry that only its definition has a default for, so that the
second repair fills it. -/
theorem settled_of_repair_encoding :
    let catalog : Catalog := ⟨[⟨"loader", ⟨[], [⟨"out", "json", false⟩]⟩, []⟩,
      ⟨"viewer", ⟨[⟨"in", "text", true⟩], []⟩, []⟩,
      ⟨"stringify", ⟨[⟨"in", "json", true⟩], [⟨"out", "text", false⟩]⟩,
        [⟨"encoding", true, some (.string "utf-8")⟩]⟩], by decide⟩
    let nodes : List Node := [⟨"a", "loader", .origin, []⟩, ⟨"b", "viewer", .origin, []⟩]
    let edges : List Edge := [⟨"e", "a", "b", none, none⟩]
    let repaired := validate catalog ⟨true, 250⟩ nodes edges
    let again := validate catalog ⟨true, 250⟩ repaired.fixedNodes repaired.fixedEdges
    repaired.valid = true ∧ ∃ issue ∈ again.issues, issue.kind = .autoFilledConfig ∧
      issue.nodeId = some "auto-stringify-1" ∧ issue.autoFixable = true := by
  decide +kernel

end Dataflow
