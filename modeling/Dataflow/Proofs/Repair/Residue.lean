import Dataflow.Proofs.Repair.Agreement
import Dataflow.Proofs.Repair.Clearing

/-! What there is left to report of a repaired workflow.

A given node that is completed again is reported for nothing new
(`Completion.sublist_completeNode`). Edges lead to it by the handles that they led to it by, or
it was fed and has the one edge of its source, which may leave other inputs open
(`Stages.Repairs.supply_given`). A given edge that was kept has the ends that it had, and needed
no converter (`Stages.Repairs.edge_given_or_new`, `Stages.Repairs.ends_again`). So whatever is new
in a second report is about nodes that were inserted, about edges to them, or about inputs beside
one that was fed (`residue_of_repair`). -/
namespace Dataflow

open Dataflow.Graph
open Repair.Converter (Detour)

namespace Stages

/-- The draft that a run on the repaired workflow starts from. -/
def redraft (catalog : NodeCatalog) (s : Stages) : Draft :=
  draft catalog s.result.fixedNodes s.result.fixedEdges

section
variable {catalog : NodeCatalog} {nodes : List Node} {edges : List Edge} {offset : Float}

/-- Without repair a run reports what the checks find of the draft that it starts from. -/
theorem mem_issues_plain_iff {issue : Issue} :
    issue ∈ (validate catalog ⟨false, offset⟩ nodes edges).issues ↔
      issue ∈ (Completion.ofNodes catalog nodes).issues ∨
        issue ∈ Port.Supply.check catalog (draft catalog nodes edges) ∨
        issue ∈ Port.Ends.check catalog (draft catalog nodes edges) ∨
        issue ∈ Cycle.check (draft catalog nodes edges) := by
  refine mem_issues_iff.trans ?_
  simp [run, repairIf, draft]

/-- An id finds a node of the type that it found before completion. -/
theorem type_node?_draft (id : String) : ((draft catalog nodes edges).node? id).map (·.type) =
    (nodes.find? fun n => n.id == id).map (·.type) := by
  rw [node?_draft, Option.map_map]
  simp only [Function.comp_def, Completion.completeNode_type]

end

namespace Repairs

variable {catalog : NodeCatalog} {nodes : List Node} {edges : List Edge} {offset : Float}
  {s : Stages} {feeds : List Repair.Source.Feed} {detours : List Detour}
  (repairs : Repairs catalog offset (draft catalog nodes edges) s feeds detours)
  {issue : Issue}
include repairs

/-! ### Nodes -/

/-- Of given nodes completion reports nothing new. -/
theorem completion_again
    (mem : issue ∈ (Completion.ofNodes catalog s.result.fixedNodes).issues) :
    issue ∈ (Completion.ofNodes catalog nodes).issues ∨
      ∃ id ∈ s.result.insertedNodes.map (·.id), issue.nodeId = some id := by
  obtain ⟨node, node_mem, reported⟩ := List.mem_flatMap.mp mem
  rw [repairs.fixedNodes_eq rfl, List.mem_append] at node_mem
  rcases node_mem with given | new
  · obtain ⟨first, first_mem, rfl⟩ := List.mem_map.mp given
    exact .inl (List.mem_flatMap.mpr
      ⟨first, first_mem, (Completion.sublist_completeNode catalog first).subset reported⟩)
  · exact .inr ⟨node.id, List.mem_map_of_mem new, Completion.nodeId_of_mem_completeNode reported⟩

/-! ### Inputs -/

/-- Of a node that was fed, other inputs may be reported than the one that was missing. -/
theorem supply_fed (kinds : s.Kinds) (distinct : (nodes.map (·.id)).Nodup) {node : Node}
    (fed : node.id ∈ feeds.map (·.target.id))
    (mem : issue ∈ Port.Supply.nodeIssues catalog node
      (s.result.fixedEdges.filter fun e => e.target = node.id)) :
    issue.kind = .ambiguousPortConnection ∧ issue.nodeId = some node.id ∧
      ∃ report ∈ s.result.ofKind .missingRequiredInput, report.nodeId = some node.id := by
  obtain ⟨feed, feed_mem, same⟩ := List.mem_map.mp fed
  obtain ⟨last, fedBy⟩ := repairs.fedBy kinds distinct feed_mem
  have one : (s.result.fixedEdges.filter fun e => e.target = node.id) = [last] :=
    same ▸ fedBy.fed.1
  have missing := repairs.missing_eq distinct
  rw [one, Port.Supply.mem_nodeIssues_iff] at mem
  rcases mem with ⟨none, -⟩ | ⟨-, port, -, -, rfl⟩
  · cases none
  · rw [kinds.ofKind_eq, reportsOf, missing]
    exact ⟨rfl, rfl, _, List.mem_map_of_mem feed_mem, congrArg some same⟩

/-- To a given node that was not fed, edges lead by the handles that they led to it by. -/
theorem supply_unfed {node : Node} (given : node ∈ (draft catalog nodes edges).nodes.toList)
    (unfed : node.id ∉ feeds.map (·.target.id)) :
    Port.Supply.nodeIssues catalog node
        (s.result.fixedEdges.filter fun e => e.target = node.id) =
      Port.Supply.nodeIssues catalog node
        ((draft catalog nodes edges).edges.toList.filter fun e => e.target = node.id) := by
  have off : node.id ∉ detours.map (·.nodeId) := by
    have apart := (repairs.apart_inserted rfl).not_mem node.id (List.mem_map_of_mem given)
    rw [repairs.ids_inserted rfl] at apart
    exact fun new => apart (List.mem_append_right _ new)
  have handles := repairs.detoured.handles_eq off
  rw [repairs.feeding.edges, List.filter_append, Repair.Source.filter_edges_eq_nil unfed,
    List.append_nil] at handles
  exact Port.Supply.nodeIssues_congr rfl rfl handles

/-- Of a given node no input is missing any more. Another one is reported only if it was
before, or if the node was fed. -/
theorem supply_given (kinds : s.Kinds) (distinct : (nodes.map (·.id)).Nodup) {node : Node}
    (given : node ∈ (draft catalog nodes edges).nodes.toList)
    (mem : issue ∈ Port.Supply.nodeIssues catalog node
      (s.result.fixedEdges.filter fun e => e.target = node.id)) :
    issue.kind ≠ .missingRequiredInput ∧
      (issue ∈ s.inputs ∨ (issue.kind = .ambiguousPortConnection ∧ issue.nodeId = some node.id ∧
        ∃ report ∈ s.result.ofKind .missingRequiredInput, report.nodeId = some node.id)) := by
  by_cases fed : node.id ∈ feeds.map (·.target.id)
  · have beside := repairs.supply_fed kinds distinct fed mem
    exact ⟨fun kind => absurd (beside.1.symm.trans kind) (by decide), .inr beside⟩
  · rw [repairs.supply_unfed given fed] at mem
    refine ⟨fun kind => fed ?_, .inl ?_⟩
    · rcases Port.Supply.mem_nodeIssues_iff.mp mem with ⟨none, port, first, -⟩ | ⟨-, _, -, -, rfl⟩
      · have lacking := Port.Supply.lacking?_eq_some_iff.mpr
          ⟨indegree_eq_zero_iff.mpr none, first⟩
        obtain ⟨feed, feed_mem, rfl, -⟩ := repairs.fed_of_lacking distinct given lacking
        exact List.mem_map_of_mem feed_mem
      · cases kind
    · rw [repairs.inputs]
      exact Port.Supply.mem_check_iff.mpr ⟨node, given, mem⟩

theorem supply_again (kinds : s.Kinds) (distinct : (nodes.map (·.id)).Nodup)
    (mem : issue ∈ Port.Supply.check catalog (s.redraft catalog)) :
    (∃ id ∈ s.result.insertedNodes.map (·.id), issue.nodeId = some id) ∨
      (issue.kind ≠ .missingRequiredInput ∧ (issue ∈ s.inputs ∨
        (issue.kind = .ambiguousPortConnection ∧ ∃ id, issue.nodeId = some id ∧
          ∃ report ∈ s.result.ofKind .missingRequiredInput, report.nodeId = some id))) := by
  obtain ⟨completed, completed_mem, reported⟩ := Port.Supply.mem_check_iff.mp mem
  obtain ⟨node, node_mem, rfl⟩ := List.mem_map.mp completed_mem
  rw [Completion.completeNode_id, Port.Supply.nodeIssues_congr
    (Completion.completeNode_id catalog node) (Completion.completeNode_type catalog node) rfl]
    at reported
  rw [repairs.fixedNodes_eq rfl, List.mem_append] at node_mem
  rcases node_mem with given | new
  · obtain ⟨fed, before | ⟨kind, names, missing⟩⟩ :=
      repairs.supply_given kinds distinct given reported
    · exact .inr ⟨fed, .inl before⟩
    · exact .inr ⟨fed, .inr ⟨kind, node.id, names, missing⟩⟩
  · exact .inl ⟨node.id, List.mem_map_of_mem new, Port.Supply.nodeId_of_mem_nodeIssues reported⟩

/-! ### Edges -/

/-- An edge of the repaired workflow was given and needed no converter, or it has an inserted
end and an id that no given edge has. -/
theorem edge_given_or_new {e : Edge} (mem : e ∈ s.result.fixedEdges) :
    (e ∈ edges ∧ ∀ type,
        Port.connection? catalog s.fed.draft.nodes.toList e ≠ some (.convertible type)) ∨
      ((e.source ∈ s.result.insertedNodes.map (·.id) ∨
          e.target ∈ s.result.insertedNodes.map (·.id)) ∧ e.id ∉ edges.map (·.id)) := by
  rw [repairs.ids_inserted rfl]
  rcases repairs.detoured.edge_mem mem with ⟨before, direct⟩ | ⟨detour, detour_mem, of_detour⟩
  · rw [repairs.feeding.edges, List.mem_append] at before
    rcases before with given | fed
    · exact .inl ⟨given, direct⟩
    · obtain ⟨feed, feed_mem, rfl⟩ := List.mem_map.mp fed
      exact .inr ⟨.inl (List.mem_append_left _ (List.mem_map_of_mem feed_mem)),
        repairs.not_given (List.mem_append_left _ (List.mem_map_of_mem feed_mem))⟩
  · have converter : detour.nodeId ∈ feeds.map (·.sourceId) ++ detours.map (·.nodeId) :=
      List.mem_append_right _ (List.mem_map_of_mem detour_mem)
    have own {id : String} (id_mem : id ∈ detour.edgeIds) : id ∉ edges.map (·.id) :=
      repairs.not_given
        (List.mem_append_right _ (List.mem_flatMap.mpr ⟨detour, detour_mem, id_mem⟩))
    rcases of_detour with rfl | rfl
    · exact .inr ⟨.inr converter, own (by simp [Detour.edgeIds, Detour.into])⟩
    · exact .inr ⟨.inl converter, own (by simp [Detour.edgeIds, Detour.out])⟩

/-- An id that was not inserted finds a node of the type that it found when ports were
checked. -/
theorem type_node?_again {id : String} (off : id ∉ s.result.insertedNodes.map (·.id)) :
    ((s.redraft catalog).node? id).map (·.type) = (s.fed.draft.node? id).map (·.type) := by
  rw [redraft, type_node?_draft, repairs.fixedNodes_eq rfl, Port.find?_append_of_not_mem off,
    ← (indexed_draft catalog nodes edges).node?_eq_find?, repairs.node?_fed off]

variable (free : ∀ id ∈ endpoints edges, id ∉ s.result.insertedNodes.map (·.id))
include free

/-- A given edge has the ends that it had. -/
theorem ends_again {e : Edge} (mem : e ∈ edges) :
    Port.Ends.ofEdge catalog (s.redraft catalog) e = Port.Ends.ofEdge catalog s.fed.draft e :=
  Port.Ends.ofEdge_congr
    (repairs.type_node?_again (free e.source (source_mem_endpoints mem)))
    (repairs.type_node?_again (free e.target (target_mem_endpoints mem)))

/-- What is reported of the ends of edges was reported before, and asks for no converter, or
else it names a new edge. -/
theorem ports_again (mem : issue ∈ Port.Ends.check catalog (s.redraft catalog)) :
    (issue ∈ s.ports ∧ issue.kind ≠ .convertibleTypeMismatch) ∨
      ∃ e ∈ s.result.fixedEdges,
        (e.source ∈ s.result.insertedNodes.map (·.id) ∨
          e.target ∈ s.result.insertedNodes.map (·.id)) ∧
        e.id ∉ edges.map (·.id) ∧ issue.edgeId = some e.id := by
  obtain ⟨e, e_mem, reported⟩ := List.mem_flatMap.mp mem
  rcases repairs.edge_given_or_new e_mem with ⟨given, direct⟩ | ⟨inserted, id⟩
  · rw [repairs.ends_again free given] at reported
    refine .inl ⟨?_, fun kind => ?_⟩
    · rw [repairs.ports]
      refine List.mem_flatMap.mpr ⟨e, ?_, reported⟩
      rw [repairs.feeding.edges]
      exact List.mem_append_left _ given
    · obtain ⟨type, found⟩ := Port.reported_issues_iff.mp ⟨issue, reported, kind⟩
      exact direct type ((Port.converter?_ofEdge_eq_some_iff repairs.feeding.indexed).mp found)
  · exact .inr ⟨e, e_mem, inserted, id, Port.Ends.edgeId_of_mem_issues reported⟩

/-- A report that asks for a converter names only edges with an inserted end. -/
theorem convertible_again (mem : issue ∈ Port.Ends.check catalog (s.redraft catalog))
    (kind : issue.kind = .convertibleTypeMismatch) {e : Edge} (e_mem : e ∈ s.result.fixedEdges)
    (names : issue.edgeId = some e.id) :
    e.source ∈ s.result.insertedNodes.map (·.id) ∨
      e.target ∈ s.result.insertedNodes.map (·.id) := by
  rcases repairs.ports_again free mem with ⟨-, other⟩ | ⟨e', -, -, new, names'⟩
  · exact absurd kind other
  · -- The edge that was reported is a new one, so that no given edge has its id.
    rcases repairs.edge_given_or_new e_mem with ⟨given, -⟩ | ⟨inserted, -⟩
    · have same : e'.id = e.id := Option.some.inj (names'.symm.trans names)
      exact absurd (same ▸ List.mem_map_of_mem given) new
    · exact inserted

end Repairs

/-! ### Cycles -/

/-- The cycles are the same: completion changes no ids. -/
theorem cycles_again (catalog : NodeCatalog) (s : Stages) :
    Cycle.check (s.redraft catalog) = Cycle.check s.converted.draft := by
  have same : Cycle.ofDraft (s.redraft catalog) = Cycle.ofDraft s.converted.draft :=
    ofLists_congr (ids_draft catalog s.result.fixedNodes s.result.fixedEdges)
  rw [Cycle.check, same, Cycle.check]

end Stages

/-- **What is left to report comes of what was inserted.** If the repaired workflow is validated
again, then every issue was reported before, or names a node that was inserted, or an edge to or
from one, or another input of a node that was fed. No given node lacks an input any more, and no
edge between given nodes needs a converter. Ids of nodes have to be different, and no edge may
name the id of a node that is inserted. -/
theorem residue_of_repair (catalog : NodeCatalog) (nodes : List Node) (edges : List Edge)
    (offset offset' : Float) (distinct : (nodes.map (·.id)).Nodup)
    (free : ∀ id ∈ endpoints edges,
      id ∉ (validate catalog ⟨true, offset⟩ nodes edges).insertedNodes.map (·.id)) :
    let repaired := validate catalog ⟨true, offset⟩ nodes edges
    let again := validate catalog ⟨false, offset'⟩ repaired.fixedNodes repaired.fixedEdges
    let new := repaired.insertedNodes.map (·.id)
    (∀ issue ∈ again.issues,
      issue ∈ repaired.issues ∨
      (∃ id ∈ new, issue.nodeId = some id) ∨
      (∃ e ∈ repaired.fixedEdges, (e.source ∈ new ∨ e.target ∈ new) ∧ issue.edgeId = some e.id) ∨
      (issue.kind = .ambiguousPortConnection ∧ ∃ id, issue.nodeId = some id ∧
        ∃ report ∈ repaired.ofKind .missingRequiredInput, report.nodeId = some id)) ∧
    (∀ issue ∈ again.ofKind .missingRequiredInput, ∃ id ∈ new, issue.nodeId = some id) ∧
    (∀ issue ∈ again.ofKind .convertibleTypeMismatch, ∀ e ∈ repaired.fixedEdges,
      issue.edgeId = some e.id → e.source ∈ new ∨ e.target ∈ new) := by
  intro repaired again new
  obtain ⟨feeds, detours, repairs⟩ := Stages.exists_repairs catalog nodes edges offset
  have kinds := Stages.kinds_run catalog ⟨true, offset⟩ nodes edges
  have kinds_again := Stages.kinds_run catalog ⟨false, offset'⟩ repaired.fixedNodes
    repaired.fixedEdges
  have listed (issue : Issue) : issue ∈ repaired.issues ↔ _ := Stages.mem_issues_iff
  refine ⟨fun issue mem => ?_, fun issue mem => ?_, fun issue mem e e_mem names => ?_⟩
  · rw [listed]
    rcases Stages.mem_issues_plain_iff.mp mem with completion | supply | ports | cycle
    · rcases repairs.completion_again completion with before | inserted
      · exact .inl (.inl before)
      · exact .inr (.inl inserted)
    · rcases repairs.supply_again kinds distinct supply with inserted | ⟨-, before | beside⟩
      · exact .inr (.inl inserted)
      · exact .inl (.inr (.inl before))
      · exact .inr (.inr (.inr beside))
    · rcases repairs.ports_again free ports with ⟨before, -⟩ | ⟨e, e_mem, inserted, -, names⟩
      · exact .inl (.inr (.inr (.inr (.inl before))))
      · exact .inr (.inr (.inl ⟨e, e_mem, inserted, names⟩))
    · have again_eq : Cycle.check (Stages.draft catalog repaired.fixedNodes repaired.fixedEdges) =
          (Stages.run catalog ⟨true, offset⟩ nodes edges).cycles := by
        rw [Stages.cycles_run]
        exact Stages.cycles_again catalog (Stages.run catalog ⟨true, offset⟩ nodes edges)
      rw [again_eq] at cycle
      exact .inl (.inr (.inr (.inr (.inr (.inr cycle)))))
  · have of_inputs : again.ofKind .missingRequiredInput = _ := kinds_again.ofKind_eq _
    rw [of_inputs] at mem
    obtain ⟨supply, kind⟩ := List.mem_filter.mp mem
    refine (repairs.supply_again kinds distinct supply).resolve_right fun given => ?_
    exact given.1 (beq_iff_eq.mp kind)
  · have of_ports : again.ofKind .convertibleTypeMismatch = _ := kinds_again.ofKind_eq _
    rw [of_ports, Stages.reportsOf, Stages.ports_plain] at mem
    obtain ⟨ports, kind⟩ := List.mem_filter.mp mem
    exact repairs.convertible_again free ports (beq_iff_eq.mp kind) e_mem names

/-- The node requires two inputs, of which one was fed, and beside it an edge was led through a
converter: the other input is reported now, since an edge leads to the node. -/
theorem residue_of_repair_beside :
    let port (name type : String) (required : Bool) : PortDefinition := ⟨name, type, required⟩
    let catalog : Catalog := ⟨[⟨"loader", ⟨[], [port "out" "json" false]⟩, []⟩,
      ⟨"viewer", ⟨[port "in" "text" true], []⟩, []⟩,
      ⟨"merge", ⟨[port "left" "text" true, port "right" "text" true], []⟩, []⟩,
      ⟨"file-source", ⟨[], [port "file" "text" false]⟩, []⟩], by decide⟩
    let nodes : List Node := [⟨"a", "loader", .origin, []⟩, ⟨"b", "viewer", .origin, []⟩,
      ⟨"c", "merge", .origin, []⟩]
    let edges : List Edge := [⟨"e", "a", "b", none, none⟩]
    let repaired := validate catalog ⟨true, 250⟩ nodes edges
    let again := validate catalog ⟨false, 250⟩ repaired.fixedNodes repaired.fixedEdges
    let new := repaired.insertedNodes.map (·.id)
    let beside := Port.Supply.ambiguous "c" (port "right" "text" true)
    (nodes.map (·.id)).Nodup ∧ new = ["auto-file-source-1", "auto-stringify-1"] ∧
      (∀ id ∈ endpoints edges, id ∉ new) ∧ beside ∈ again.issues ∧ beside ∉ repaired.issues ∧
      ∃ report ∈ repaired.ofKind .missingRequiredInput, report.nodeId = some "c" := by
  intro port catalog nodes edges repaired again new beside
  have distinct : (nodes.map (·.id)).Nodup := by decide
  have inserted : new = ["auto-file-source-1", "auto-stringify-1"] := by decide +kernel
  have free : ∀ id ∈ endpoints edges, id ∉ new := by
    rw [inserted]
    decide
  have reported : beside ∈ again.issues := by decide +kernel
  have first : beside ∉ repaired.issues := by decide +kernel
  have given : "c" ∉ new := by
    rw [inserted]
    decide
  refine ⟨distinct, inserted, free, reported, first, ?_⟩
  rcases (residue_of_repair catalog nodes edges 250 250 distinct free).1 beside reported with
    before | ⟨id, id_new, names⟩ | ⟨e, -, -, names⟩ | ⟨-, id, names, report⟩
  · exact absurd before first
  · obtain rfl : "c" = id := Option.some.inj names
    exact absurd id_new given
  · cases names
  · obtain rfl : "c" = id := Option.some.inj names
    exact report

end Dataflow
