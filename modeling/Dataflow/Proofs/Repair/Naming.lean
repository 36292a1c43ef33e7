import Dataflow.Proofs.Repair.Conservation

/-! Where that which issues name is to be found.

Every stage reports on the workflow as it stands then, and repairs rewrite it between them. Nodes
are never taken away, and cycles are looked for at the end. Ports are checked when sources are
there and converters are not: an edge that is reported then was given, or is still there at the
end, or came out of a source and was replaced (`Stages.Repairs.located_ports`). In that last case
it needed a converter, which is what is reported, and two edges through the converter stand for it
(`Stages.Replaced`). -/
namespace Dataflow

open Dataflow.Graph
open Repair.Converter (Detour)

namespace Stages

/-- An edge out of a source that was replaced by two edges through an inserted node, so that
neither the given edges nor those that are left have its id. -/
structure Replaced (s : Stages) (given : List Edge) (e : Edge) : Prop where
  made : e ∈ s.sourceEdges given
  not_given : e.id ∉ given.map (·.id)
  not_left : e.id ∉ s.result.fixedEdges.map (·.id)
  through : ∃ node ∈ s.result.insertedNodes, ∃ intoId outId,
    ⟨intoId, e.source, node.id, e.sourceHandle, none⟩ ∈ s.result.fixedEdges ∧
    ⟨outId, node.id, e.target, none, e.targetHandle⟩ ∈ s.result.fixedEdges

/-- What an issue is about, and where that is to be found. -/
inductive Located (s : Stages) (given : List Edge) : Issue → Prop where
  | node {kind message} {n : Node} (mem : n ∈ s.result.fixedNodes) :
      Located s given (.ofNode kind n.id message)
  | edge {kind message} {e : Edge} (mem : e ∈ given ∨ e ∈ s.result.fixedEdges) :
      Located s given (.ofEdge kind e.id message)
  | replaced {message} {e : Edge} (replaced : s.Replaced given e) :
      Located s given (.ofEdge .convertibleTypeMismatch e.id message)
  | cycle {path : List String} (ends : ∀ id ∈ path, id ∈ endpoints s.result.fixedEdges) :
      Located s given (.ofCycle path)

/-! ### Edges that were replaced -/

namespace Repairs

variable {catalog : NodeCatalog} {nodes : List Node} {edges : List Edge} {offset : Float}
  {s : Stages} {feeds : List Repair.Source.Feed} {detours : List Detour}
  (repairs : Repairs catalog offset (draft catalog nodes edges) s feeds detours)
include repairs

/-- Once an edge out of a source was replaced, no edge has its id. -/
theorem not_left {feed : Repair.Source.Feed} (mem : feed ∈ feeds) {type : String}
    (needed : Port.connection? catalog s.fed.draft.nodes.toList feed.edge =
      some (.convertible type)) : feed.edgeId ∉ s.result.fixedEdges.map (·.id) := by
  intro left
  obtain ⟨e, e_mem, same⟩ := List.mem_map.mp left
  have handed_out : feed.edgeId ∈ feeds.map (·.edgeId) := List.mem_map_of_mem mem
  obtain ⟨nodup, -, apart⟩ := List.nodup_append'.mp repairs.handedOut.nodup
  rcases repairs.detoured.edge_mem e_mem with ⟨before, direct⟩ | ⟨d, d_mem, of_detour⟩
  · rw [repairs.feeding.edges, List.mem_append] at before
    rcases before with given | fed
    · exact repairs.not_given (List.mem_append_left _ handed_out)
        (List.mem_map.mpr ⟨e, given, same⟩)
    · obtain ⟨other, other_mem, rfl⟩ := List.mem_map.mp fed
      obtain rfl := List.inj_on_of_nodup_map nodup other_mem mem same
      exact direct type needed
  · have of_converter : feed.edgeId ∈ detours.flatMap (·.edgeIds) := by
      refine List.mem_flatMap.mpr ⟨d, d_mem, ?_⟩
      rw [← same]
      rcases of_detour with rfl | rfl
      · exact List.mem_cons_self ..
      · exact List.mem_cons_of_mem _ (List.mem_cons_self ..)
    exact apart handed_out of_converter

/-- An edge out of a source is left, or else it was replaced since it needed a converter. -/
theorem left_or_replaced {e : Edge} (made : e ∈ s.sourceEdges edges) :
    e ∈ s.result.fixedEdges ∨ s.Replaced edges e ∧
      ∃ type, Port.connection? catalog s.fed.draft.nodes.toList e = some (.convertible type) := by
  have before : e ∈ s.fed.draft.edges.toList := by
    rw [repairs.edges_fed]
    exact List.mem_append_right _ made
  refine (repairs.detoured.left_or_replaced before).imp_right fun replaced => ?_
  obtain ⟨d, d_mem, rfl, needed⟩ := replaced
  have source_edges : s.sourceEdges edges = feeds.map (·.edge) := repairs.sourceEdges_eq
  obtain ⟨feed, feed_mem, same⟩ := List.mem_map.mp (source_edges ▸ made)
  have converter : d.node ∈ s.result.insertedNodes := by
    rw [repairs.insertedNodes_eq, repairs.converters_eq]
    exact List.mem_append_right _ (List.mem_map_of_mem d_mem)
  have edges_mem := repairs.detoured.edges_mem d_mem
  refine ⟨?_, d.type, needed⟩
  exact {
    made
    not_given := same ▸ repairs.not_given (List.mem_append_left _ (List.mem_map_of_mem feed_mem))
    not_left := same ▸ repairs.not_left feed_mem (same ▸ needed)
    through := ⟨d.node, converter, d.intoId, d.outId, edges_mem⟩ }

/-! ### Stages -/

/-- What the port check reports is about given edges, or edges that are left or were replaced. -/
theorem located_ports : ∀ issue ∈ s.ports, s.Located edges issue := by
  intro issue mem
  rw [repairs.ports] at mem
  obtain ⟨e, before, reported⟩ := List.mem_flatMap.mp mem
  rw [Port.Ends.eq_ofEdge_of_mem_issues reported]
  rw [repairs.edges_fed, List.mem_append] at before
  rcases before with given | made
  · exact .edge (.inl given)
  · rcases repairs.left_or_replaced made with left | ⟨replaced, type, needed⟩
    · exact .edge (.inr left)
    · have found := (Port.converter?_ofEdge_eq_some_iff repairs.feeding.indexed).mpr needed
      rw [Port.Ends.kind_of_mem_issues found reported]
      exact .replaced replaced

/-- What repairs report is about nodes that they inserted. -/
theorem located_repairs : ∀ issue ∈ s.fed.issues ++ s.converted.issues, s.Located edges issue := by
  have inserted {node : Node} (mem : node ∈ s.result.insertedNodes) :
      node ∈ s.result.fixedNodes := by
    rw [repairs.fixedNodes_eq rfl]
    exact List.mem_append_right _ mem
  rw [repairs.insertedNodes_eq, repairs.sources_eq rfl, repairs.converters_eq] at inserted
  rw [List.forall_mem_append, repairs.feeding.issues, repairs.converting.issues]
  simp only [List.forall_mem_map]
  constructor
  · intro feed mem
    have node : feed.source offset ∈ s.result.fixedNodes :=
      inserted (List.mem_append_left _ (List.mem_map_of_mem mem))
    exact .node node
  · intro d mem
    have node : d.node ∈ s.result.fixedNodes :=
      inserted (List.mem_append_right _ (List.mem_map_of_mem mem))
    exact .node node

end Repairs

section
variable (catalog : NodeCatalog) (options : Options) (nodes : List Node) (edges : List Edge)

/-- No completed node is taken away. -/
theorem mem_fixedNodes {node : Node} (mem : node ∈ (Completion.ofNodes catalog nodes).nodes) :
    node ∈ (run catalog options nodes edges).result.fixedNodes := by
  obtain ⟨autoFix, offset⟩ := options
  cases autoFix with
  | false => exact (fixedNodes_plain catalog nodes edges offset).symm ▸ mem
  | true =>
    obtain ⟨feeds, detours, repairs⟩ := exists_repairs catalog nodes edges offset
    rw [repairs.fixedNodes_eq rfl]
    exact List.mem_append_left _ mem

/-- What the port check reports, and what repairs report, is located. -/
theorem located_rewriting : ∀ issue ∈ (run catalog options nodes edges).ports ++
    ((run catalog options nodes edges).fed.issues ++
      (run catalog options nodes edges).converted.issues),
    (run catalog options nodes edges).Located edges issue := by
  rw [List.forall_mem_append]
  obtain ⟨autoFix, offset⟩ := options
  cases autoFix with
  | false =>
    refine ⟨fun issue mem => ?_, by simp [run, repairIf]⟩
    rw [ports_plain] at mem
    obtain ⟨e, given, reported⟩ := List.mem_flatMap.mp mem
    rw [Port.Ends.eq_ofEdge_of_mem_issues reported]
    exact .edge (.inl given)
  | true =>
    obtain ⟨feeds, detours, repairs⟩ := exists_repairs catalog nodes edges offset
    exact ⟨repairs.located_ports, repairs.located_repairs⟩

/-- **Whatever a run reports is located.** -/
theorem located_run : ∀ issue ∈ (run catalog options nodes edges).issues,
    (run catalog options nodes edges).Located edges issue := by
  have rewriting := located_rewriting catalog options nodes edges
  simp only [List.forall_mem_append] at rewriting
  obtain ⟨ports, fed, converted⟩ := rewriting
  intro issue mem
  rcases mem_issues_iff.mp mem with completed | inputs | mem | mem | mem | cycles
  · obtain ⟨node, node_mem, reported⟩ := List.mem_flatMap.mp completed
    rw [Completion.eq_ofNode_of_mem_completeNode reported, ← Completion.completeNode_id catalog]
    exact .node (mem_fixedNodes catalog options nodes edges (List.mem_map_of_mem node_mem))
  · obtain ⟨node, node_mem, reported⟩ := List.mem_flatMap.mp inputs
    rw [Port.Supply.eq_ofNode_of_mem_nodeIssues reported]
    exact .node (mem_fixedNodes catalog options nodes edges node_mem)
  · exact fed issue mem
  · exact ports issue mem
  · exact converted issue mem
  · obtain ⟨path, found, rfl⟩ := List.mem_map.mp cycles
    have cycle := Cycle.simpleCycle_of_mem_paths path found
    exact .cycle (cycle.forall_mem fun _ _ => mem_endpoints_of_arc)

end

end Stages

/-- **What issues name is to be found.** Every edge that an issue names was given, or is left at
the end, unless it came out of a source and was replaced since it needed a converter: that is what
is reported of it then, and two edges through an inserted node stand for it. Every node that an
issue names is left at the end, but for cycles; the ids along a cycle are ends of edges that are. -/
theorem naming_of_validate (catalog : NodeCatalog) (options : Options) (nodes : List Node)
    (edges : List Edge) :
    let stages := Stages.run catalog options nodes edges
    let result := validate catalog options nodes edges
    (∀ issue ∈ result.issues, ∀ id, issue.edgeId = some id →
      id ∈ edges.map (·.id) ∨ id ∈ result.fixedEdges.map (·.id) ∨
        (issue.kind = .convertibleTypeMismatch ∧ ∃ e, stages.Replaced edges e ∧ e.id = id)) ∧
    (∀ issue ∈ result.issues, issue.kind ≠ .cycle → ∀ id, issue.nodeId = some id →
      id ∈ result.fixedNodes.map (·.id)) ∧
    ∀ issue ∈ result.issues, ∀ path, issue.path = some path →
      ∀ id ∈ path, id ∈ endpoints result.fixedEdges := by
  intro stages result
  have located := Stages.located_run catalog options nodes edges
  refine ⟨fun issue mem id names => ?_, fun issue mem other id names => ?_,
    fun issue mem path along => ?_⟩
  · cases located issue mem with
    | node node_mem => cases names
    | edge edge_mem =>
      obtain rfl := Option.some.inj names
      exact edge_mem.imp List.mem_map_of_mem fun left => .inl (List.mem_map_of_mem left)
    | replaced replaced =>
      obtain rfl := Option.some.inj names
      exact .inr (.inr ⟨rfl, _, replaced, rfl⟩)
    | cycle ends => cases names
  · cases located issue mem with
    | node node_mem =>
      obtain rfl := Option.some.inj names
      exact List.mem_map_of_mem node_mem
    | edge edge_mem => cases names
    | replaced replaced => cases names
    | cycle ends => exact absurd rfl other
  · cases located issue mem with
    | node node_mem => cases along
    | edge edge_mem => cases along
    | replaced replaced => cases along
    | cycle ends =>
      obtain rfl := Option.some.inj along
      exact ends

/-- The edge of a source is reported as convertible and replaced, so that neither the given edges
nor those that are left have the id that the report names. -/
theorem naming_of_validate_replaced :
    let port (type : String) (required : Bool) : PortDefinition := ⟨"port", type, required⟩
    let catalog : Catalog := ⟨[⟨"index", ⟨[port "text-sequence" true], []⟩, []⟩,
      ⟨"file-source", ⟨[], [port "text" false]⟩, []⟩], by decide⟩
    let nodes : List Node := [⟨"a", "index", .origin, []⟩]
    let result := validate catalog ⟨true, 250⟩ nodes []
    ¬ ∀ issue ∈ result.issues, ∀ id, issue.edgeId = some id →
      id ∈ ([] : List Edge).map (·.id) ∨ id ∈ result.fixedEdges.map (·.id) := by
  intro port catalog nodes result names
  let e : Edge := ⟨"auto-edge-1", "auto-file-source-1", "a", none, some "port"⟩
  have reported : Port.Ends.convertible e "text" "text-sequence" "split" ∈ result.issues := by
    decide +kernel
  have left : result.fixedEdges.map (·.id) = ["auto-edge-2", "auto-edge-3"] := by decide +kernel
  have found := names _ reported "auto-edge-1" rfl
  rw [left] at found
  exact absurd found (by decide)

end Dataflow
