import Dataflow.Proofs.Repair.Conservation
import Dataflow.Proofs.Repair.Dangling
import Dataflow.Proofs.Repair.Reach

/-! What a run with repair reports, against one without.

Both runs complete the same nodes and look at the same inputs. When ports are checked there
are sources besides, but a given edge names none of them and has the ends that it had. So repair
adds to the reports those of what it did and those of the edges out of sources, which are
attached (`Stages.Repairs.ports_eq`, `Stages.Repairs.ofKinds_sourceIssues`), and only these can
change the verdict (`agreement_of_repair`). -/
namespace Dataflow

open Dataflow.Graph
open Repair.Converter (Detour)

/-- All that is reported but the cycles. -/
def Result.besidesCycles (r : Result) : List Issue := r.issues.filter fun i => i.kind != .cycle

namespace Stages

/-- What the port check reports of the edges out of sources. -/
def sourceIssues (catalog : NodeCatalog) (s : Stages) (given : List Edge) : List Issue :=
  (s.sourceEdges given).flatMap fun e => Port.Ends.issues e (Port.Ends.ofEdge catalog s.fed.draft e)

section
variable {catalog : NodeCatalog} {nodes : List Node} {edges : List Edge} {offset : Float}

theorem besidesCycles_plain : (validate catalog ⟨false, offset⟩ nodes edges).besidesCycles =
    (Completion.ofNodes catalog nodes).issues ++
      Port.Supply.check catalog (draft catalog nodes edges) ++
        Port.Ends.check catalog (draft catalog nodes edges) := by
  have kinds := kinds_run catalog ⟨false, offset⟩ nodes edges
  refine kinds.filter_not_cycle.trans ?_
  simp [run, repairIf, draft]

namespace Repairs

variable {s : Stages} {feeds : List Repair.Source.Feed} {detours : List Detour}
  (repairs : Repairs catalog offset (draft catalog nodes edges) s feeds detours)
include repairs

/-- When ports are checked, an id finds the node that it found before, unless it is inserted. -/
theorem node?_fed {id : String} (off : id ∉ s.result.insertedNodes.map (·.id)) :
    s.fed.draft.node? id = (draft catalog nodes edges).node? id := by
  have no_source : id ∉ (feeds.map (·.source offset)).map (·.id) := by
    rw [repairs.ids_inserted rfl] at off
    rw [Repair.Source.ids_sources]
    exact fun source => off (List.mem_append_left _ source)
  rw [repairs.feeding.indexed.node?_eq_find?, (indexed_draft catalog nodes edges).node?_eq_find?,
    repairs.feeding.nodes, Port.find?_append_of_not_mem no_source]

/-- The edges out of sources run between nodes. -/
theorem node?_fed_ne_none {id : String} (mem : id ∈ endpoints (s.sourceEdges edges)) :
    s.fed.draft.node? id ≠ none := by
  have source_edges : s.sourceEdges edges = feeds.map (·.edge) := repairs.sourceEdges_eq
  rw [source_edges] at mem
  have targets := repairs.inputs ▸ Repair.Source.target_mem_nodes catalog _
  obtain ⟨node, node_mem, rfl⟩ := List.mem_map.mp (repairs.feeding.ends_mem targets id mem)
  rw [repairs.feeding.indexed.node?_eq_find?, ne_eq, List.find?_eq_none]
  exact fun none => none node node_mem (beq_self_eq_true _)

/-- The edges out of sources are attached, so that only their ports are reported. -/
theorem ofKinds_sourceIssues :
    OfKinds [.unresolvedPort, .convertibleTypeMismatch, .incompatibleTypeMismatch]
      (s.sourceIssues catalog edges) := by
  intro issue mem
  obtain ⟨e, e_mem, reported⟩ := List.mem_flatMap.mp mem
  have kept : e ∈ s.fed.draft.edges.toList := by
    rw [repairs.edges_fed]
    exact List.mem_append_right _ e_mem
  have of := ofKinds_ends catalog s.fed.draft issue (List.mem_flatMap.mpr ⟨e, kept, reported⟩)
  have attached : issue.kind ≠ .structuralEdge := by
    intro kind
    rcases (Port.Ends.mem_issues_structural_iff kind).mp reported with ⟨none, -⟩ | ⟨none, -⟩
    · exact repairs.node?_fed_ne_none (source_mem_endpoints e_mem) none
    · exact repairs.node?_fed_ne_none (target_mem_endpoints e_mem) none
  exact { of with mem := (List.mem_cons.mp of.mem).resolve_left attached }

theorem blocked_sourceIssues_iff : Blocked (s.sourceIssues catalog edges) ↔
    Reported .incompatibleTypeMismatch (s.sourceIssues catalog edges) :=
  repairs.ofKinds_sourceIssues.blocked_iff (by decide)

variable (free : ∀ id ∈ endpoints edges, id ∉ s.result.insertedNodes.map (·.id))
include free

/-- **The port check finds of given edges what it would find without sources.** -/
theorem ports_eq : s.ports =
    Port.Ends.check catalog (draft catalog nodes edges) ++ s.sourceIssues catalog edges := by
  have fed : s.fed.draft.edges.toList = edges ++ s.sourceEdges edges := repairs.edges_fed
  rw [repairs.ports, Port.Ends.check, fed, List.flatMap_append, Port.Ends.check, sourceIssues]
  congr 1
  refine List.flatMap_congr fun e mem => ?_
  have source := repairs.node?_fed (free e.source (source_mem_endpoints mem))
  have target := repairs.node?_fed (free e.target (target_mem_endpoints mem))
  rw [Port.Ends.ofEdge_congr (congrArg _ source) (congrArg _ target)]

/-- What is reported by the id of an edge out of a source is reported of that edge: its id is
new. -/
theorem reported_sourceIssues_iff (kinds : s.Kinds) {kind : IssueKind}
    (of_ports : s.reportsOf kind = s.ports) :
    Reported kind (s.sourceIssues catalog edges) ↔ ∃ issue ∈ s.result.ofKind kind,
      ∃ e ∈ s.sourceEdges edges, issue.edgeId = some e.id := by
  rw [kinds.ofKind_eq, of_ports, repairs.ports_eq free]
  constructor
  · intro reported
    obtain ⟨issue, issue_mem, rfl⟩ := reported
    obtain ⟨e, e_mem, of_edge⟩ := List.mem_flatMap.mp issue_mem
    exact ⟨issue, List.mem_filter.mpr ⟨List.mem_append_right _ issue_mem, beq_self_eq_true _⟩,
      e, e_mem, Port.Ends.edgeId_of_mem_issues of_edge⟩
  · intro named
    obtain ⟨issue, found, e, e_mem, names⟩ := named
    obtain ⟨issue_mem, of_kind⟩ := List.mem_filter.mp found
    refine ⟨issue, (List.mem_append.mp issue_mem).resolve_left fun given => ?_,
      beq_iff_eq.mp of_kind⟩
    obtain ⟨g, g_mem, of_edge⟩ := List.mem_flatMap.mp given
    have same : g.id = e.id :=
      Option.some.inj ((Port.Ends.edgeId_of_mem_issues of_edge).symm.trans names)
    have source_edges : s.sourceEdges edges = feeds.map (·.edge) := repairs.sourceEdges_eq
    obtain ⟨feed, feed_mem, rfl⟩ := List.mem_map.mp (source_edges ▸ e_mem)
    exact repairs.not_given (List.mem_append_left _ (List.mem_map_of_mem feed_mem))
      (List.mem_map.mpr ⟨g, g_mem, same⟩)

end Repairs

variable {feeds : List Repair.Source.Feed} {detours : List Detour}
  (repairs : Repairs catalog offset (draft catalog nodes edges)
    (run catalog ⟨true, offset⟩ nodes edges) feeds detours)
  (free : ∀ id ∈ endpoints edges,
    id ∉ (validate catalog ⟨true, offset⟩ nodes edges).insertedNodes.map (·.id))
include repairs free

theorem besidesCycles_repaired : (validate catalog ⟨true, offset⟩ nodes edges).besidesCycles =
    (Completion.ofNodes catalog nodes).issues ++
      Port.Supply.check catalog (draft catalog nodes edges) ++
      (run catalog ⟨true, offset⟩ nodes edges).fed.issues ++
      (Port.Ends.check catalog (draft catalog nodes edges) ++
        (run catalog ⟨true, offset⟩ nodes edges).sourceIssues catalog edges) ++
      (run catalog ⟨true, offset⟩ nodes edges).converted.issues := by
  have kinds := kinds_run catalog ⟨true, offset⟩ nodes edges
  refine kinds.filter_not_cycle.trans ?_
  rw [repairs.ports_eq free]
  rfl

/-- Repair neither makes a cycle nor breaks one. -/
theorem cyclic_repaired_iff :
    Cycle.Cyclic (Arc (validate catalog ⟨true, offset⟩ nodes edges).fixedEdges) ↔
      Cycle.Cyclic (Arc (validate catalog ⟨false, offset⟩ nodes edges).fixedEdges) := by
  rw [fixedEdges_plain]
  exact repairs.cyclic_iff fun id mem => repairs.ids_inserted rfl ▸ free id mem

/-- With repair the workflow is valid just if it is without, and no edge of a source joins types
that do not go together. -/
theorem valid_repaired_iff : (validate catalog ⟨true, offset⟩ nodes edges).valid = true ↔
    (validate catalog ⟨false, offset⟩ nodes edges).valid = true ∧
      ¬ Reported .incompatibleTypeMismatch
        ((run catalog ⟨true, offset⟩ nodes edges).sourceIssues catalog edges) := by
  rw [valid_run_iff, valid_run_iff, ports_plain, repairs.ports_eq free, blocked_append,
    repairs.blocked_sourceIssues_iff, cyclic_repaired_iff repairs free, not_or]
  constructor
  · intro valid
    obtain ⟨completed, ⟨given, fed⟩, acyclic⟩ := valid
    exact ⟨⟨completed, given, acyclic⟩, fed⟩
  · intro valid
    obtain ⟨⟨completed, given, acyclic⟩, fed⟩ := valid
    exact ⟨completed, ⟨given, fed⟩, acyclic⟩

end

end Stages

/-- **Repair takes no report away, and adds only its own.** But for cycles, what is reported
without repair is reported with it, in the same order; the other reports are of repairs, or of
the ports of edges out of sources. There is a report of a cycle with repair just if there is one
without. With repair the workflow is valid just if it is without, and no edge of a source is
reported as incompatible. Only, no edge may name the id of a node that is inserted. -/
theorem agreement_of_repair (catalog : NodeCatalog) (nodes : List Node) (edges : List Edge)
    (offset : Float)
    (free : ∀ id ∈ endpoints edges,
      id ∉ (validate catalog ⟨true, offset⟩ nodes edges).insertedNodes.map (·.id)) :
    let stages := Stages.run catalog ⟨true, offset⟩ nodes edges
    let plain := validate catalog ⟨false, offset⟩ nodes edges
    let repaired := validate catalog ⟨true, offset⟩ nodes edges
    plain.besidesCycles.Sublist repaired.issues ∧
    (∃ before after fed converted, plain.besidesCycles = before ++ after ∧
      repaired.besidesCycles =
        before ++ fed ++ (after ++ stages.sourceIssues catalog edges) ++ converted ∧
      ∀ issue ∈ fed ++ converted, issue.kind = .repairApplied) ∧
    (∀ issue ∈ stages.sourceIssues catalog edges, issue.kind ≠ .structuralEdge ∧
      ∃ e ∈ stages.sourceEdges edges, issue.edgeId = some e.id) ∧
    (Reported .cycle repaired.issues ↔ Reported .cycle plain.issues) ∧
    (repaired.valid = true ↔ plain.valid = true ∧
      ∀ issue ∈ repaired.ofKind .incompatibleTypeMismatch, ∀ e ∈ stages.sourceEdges edges,
        issue.edgeId ≠ some e.id) := by
  intro stages plain repaired
  obtain ⟨feeds, detours, repairs⟩ := Stages.exists_repairs catalog nodes edges offset
  have kinds := Stages.kinds_run catalog ⟨true, offset⟩ nodes edges
  have without : plain.besidesCycles = _ := Stages.besidesCycles_plain
  have with_repair : repaired.besidesCycles = _ := Stages.besidesCycles_repaired repairs free
  have kept : plain.besidesCycles.Sublist repaired.besidesCycles := by
    rw [without, with_repair]
    have inputs := List.sublist_append_left ((Completion.ofNodes catalog nodes).issues ++
      Port.Supply.check catalog (Stages.draft catalog nodes edges)) stages.fed.issues
    have ports := List.sublist_append_left
      (Port.Ends.check catalog (Stages.draft catalog nodes edges))
      (stages.sourceIssues catalog edges)
    exact (inputs.append ports).trans (List.sublist_append_left ..)
  refine ⟨kept.trans List.filter_sublist, ⟨_, _, _, _, without, with_repair, ?_⟩, ?_, ?_, ?_⟩
  · rw [List.forall_mem_append]
    exact ⟨fun issue mem => List.mem_singleton.mp (kinds.fed issue mem).mem,
      fun issue mem => List.mem_singleton.mp (kinds.converted issue mem).mem⟩
  · intro issue mem
    refine ⟨fun kind => ?_, ?_⟩
    · exact repairs.ofKinds_sourceIssues.not_reported (by decide) ⟨issue, mem, kind⟩
    · obtain ⟨e, e_mem, reported⟩ := List.mem_flatMap.mp mem
      exact ⟨e, e_mem, Port.Ends.edgeId_of_mem_issues reported⟩
  · rw [Stages.reported_cycle_iff, Stages.reported_cycle_iff]
    exact Stages.cyclic_repaired_iff repairs free
  · rw [Stages.valid_repaired_iff repairs free,
      repairs.reported_sourceIssues_iff free kinds rfl]
    push Not
    rfl

/-- No table lists the type that the input requires, so that the edge of its source is
incompatible: repair makes an invalid workflow of a valid one. -/
theorem agreement_of_repair_unlisted :
    let port (type : String) (required : Bool) : PortDefinition := ⟨"port", type, required⟩
    let catalog : Catalog := ⟨[⟨"camera", ⟨[], [port "image" false]⟩, []⟩,
      ⟨"viewer", ⟨[port "image" true], []⟩, []⟩, ⟨"file-source", ⟨[], [port "text" false]⟩, []⟩],
      by decide⟩
    let nodes : List Node := [⟨"a", "camera", .origin, []⟩, ⟨"b", "viewer", .origin, []⟩,
      ⟨"c", "viewer", .origin, []⟩]
    let edges : List Edge := [⟨"e", "a", "b", none, none⟩]
    let repaired := validate catalog ⟨true, 250⟩ nodes edges
    (∀ id ∈ endpoints edges, id ∉ repaired.insertedNodes.map (·.id)) ∧
      repaired.insertedNodes.map (·.id) = ["auto-file-source-1"] ∧
      (validate catalog ⟨false, 250⟩ nodes edges).valid = true ∧ repaired.valid = false := by
  intro port catalog nodes edges repaired
  let e : Edge := ⟨"auto-edge-1", "auto-file-source-1", "c", none, some "port"⟩
  have inserted : repaired.insertedNodes.map (·.id) = ["auto-file-source-1"] := by decide +kernel
  have free : ∀ id ∈ endpoints edges, id ∉ repaired.insertedNodes.map (·.id) := by
    rw [inserted]
    decide
  have plain : (validate catalog ⟨false, 250⟩ nodes edges).valid = true := by decide +kernel
  have reported : Port.Ends.incompatible e "text" "image" ∈
      repaired.ofKind .incompatibleTypeMismatch := by decide +kernel
  have source : e ∈ (Stages.run catalog ⟨true, 250⟩ nodes edges).sourceEdges edges := by
    decide +kernel
  have verdict := (agreement_of_repair catalog nodes edges 250 free).2.2.2.2
  refine ⟨free, inserted, plain, Bool.eq_false_iff.mpr fun valid => ?_⟩
  exact (verdict.mp valid).2 _ reported e source rfl

end Dataflow
