import Dataflow.Proofs.Port.Connection

/-! The verdict on a repaired workflow.

Types and configuration are looked into before anything is inserted, and ports before edges
are converted. So the verdict is true of the nodes that were given, which stay complete
(`Completes.completeNode`), and of edges that name no converter, which connect as they did
(`connection?_converted`). Whether it is true of the workflow that is returned is up to the
inserted nodes and to the edges of converters (`verdict_of_repair`). -/
namespace Dataflow

/-! ### Nodes -/

namespace Completion

/-- The node is of a known type, and completion leaves no required field of it unset. -/
def Completes (catalog : NodeCatalog) (node : Node) : Prop :=
  ∃ d, catalog.definition node.type = some d ∧ ¬ Lacks node.type d.requiredFields node.config

section
variable {catalog : NodeCatalog}

theorem not_blocked_iff {nodes : List Node} :
    ¬ Blocked (ofNodes catalog nodes).issues ↔ ∀ node ∈ nodes, Completes catalog node := by
  rw [blocked_completion]
  push Not
  refine forall₂_congr fun node _ => ?_
  cases found : catalog.definition node.type <;> simp [Completes, found]

/-- A node that was completed can be completed again. -/
theorem Completes.completeNode {node : Node} (h : Completes catalog node) :
    Completes catalog (completeNode catalog node).1 := by
  obtain ⟨d, found, complete⟩ := h
  refine ⟨d, (completeNode_type catalog node).symm ▸ found, fun lacks => complete ?_⟩
  rw [completeNode_type, Completion.completeNode, found] at lacks
  exact lacks.mono fun key unset => ((unset_fill_iff ..).mp unset).1

end

end Completion

/-! ### Edges -/

namespace Stages

/-- The edge names a converter. -/
def OnConverter (s : Stages) (e : Edge) : Prop :=
  e.source ∈ s.converters.map (·.id) ∨ e.target ∈ s.converters.map (·.id)

namespace Repairs

variable {catalog : NodeCatalog} {offset : Float} {d : Draft} {s : Stages}
  {feeds : List Repair.Source.Feed} {detours : List Repair.Converter.Detour}
  (repairs : Repairs catalog offset d s feeds detours) {e : Edge}
include repairs

/-- An edge that names no converter was kept. -/
theorem kept_of_not_onConverter (mem : e ∈ s.result.fixedEdges) (off : ¬ s.OnConverter e) :
    ∃ plan, (e, plan) ∈ Repair.Converter.plans catalog s.ports s.fed.draft ∧
      ∀ type position, plan ≠ .through type position := by
  have converters : s.converters.map (·.id) = detours.map (·.nodeId) := by
    rw [repairs.converters_eq, Repair.Converter.ids_converters]
  rw [OnConverter, converters, not_or] at off
  refine (repairs.converting.carried.kept_mem e mem).resolve_right fun detoured => ?_
  obtain ⟨detour, detour_mem, rfl | rfl⟩ := detoured
  · exact off.2 (List.mem_map_of_mem detour_mem)
  · exact off.1 (List.mem_map_of_mem detour_mem)

/-- The edge connects as it did when ports were checked. -/
theorem connection?_converted (off : ¬ s.OnConverter e) :
    Port.connection? catalog s.result.fixedNodes e =
      Port.connection? catalog s.fed.draft.nodes.toList e := by
  rw [OnConverter, not_or] at off
  rw [repairs.fixedNodes_fed, Port.connection?_append off.1 off.2]

/-- All edges are attached, if all were when ports were checked. -/
theorem attached (before : ∀ e ∈ s.fed.draft.edges.toList, Port.Attached s.fed.draft.nodes.toList e)
    (mem : e ∈ s.result.fixedEdges) : Port.Attached s.result.fixedNodes e := by
  rw [repairs.fixedNodes_fed]
  rcases repairs.converting.carried.edge_mem e mem with kept | ⟨detour, detour_mem, detoured⟩
  · rw [Repair.Converter.edges_plans] at kept
    exact (before e kept).append
  · have replaced : Port.Attached s.fed.draft.nodes.toList detour.edge :=
      Repair.Converter.ends_of_through catalog s.ports s.fed.draft repairs.feeding.indexed
        (repairs.converting.carried.plan_mem detour detour_mem)
    have converter :
        ∃ node ∈ s.fed.draft.nodes.toList ++ s.converters, node.id = detour.nodeId := by
      rw [repairs.converters_eq]
      exact ⟨detour.node, List.mem_append_right _ (List.mem_map_of_mem detour_mem), rfl⟩
    rcases detoured with rfl | rfl
    · exact ⟨replaced.append.1, converter⟩
    · exact ⟨converter, replaced.append.2⟩

end Repairs

section
variable (catalog : NodeCatalog) (nodes : List Node) (edges : List Edge) (offset : Float)

/-- Without repair the port check goes by the edges that are given. -/
theorem not_blocked_ports_iff : ¬ Blocked (run catalog ⟨false, offset⟩ nodes edges).ports ↔
    ∀ e ∈ edges, Port.Attached nodes e ∧ Port.connection? catalog nodes e ≠ some .incompatible := by
  rw [ports_plain, Port.blocked_check_iff (indexed_draft catalog nodes edges)]
  simp only [draft, Draft.ofLists, Port.connection?_completed, Port.Attached, exists_id_completed]
  push Not
  rfl

/-- With repair it goes by the edges there are once inputs are fed. -/
theorem not_blocked_fed_iff : ¬ Blocked (run catalog ⟨true, offset⟩ nodes edges).ports ↔
    ∀ e ∈ (run catalog ⟨true, offset⟩ nodes edges).fed.draft.edges.toList,
      Port.Attached (run catalog ⟨true, offset⟩ nodes edges).fed.draft.nodes.toList e ∧
        Port.connection? catalog (run catalog ⟨true, offset⟩ nodes edges).fed.draft.nodes.toList e ≠
          some .incompatible := by
  obtain ⟨feeds, detours, repairs⟩ := exists_repairs catalog nodes edges offset
  have check : Blocked (run catalog ⟨true, offset⟩ nodes edges).ports ↔ _ :=
    Port.blocked_check_iff repairs.feeding.indexed
  exact (not_congr check).trans (by push Not; rfl)

end

end Stages

/-- **The verdict on a repaired workflow is true of it** if the inserted nodes are complete and the
edges of converters are compatible, and only then. -/
theorem verdict_of_repair (catalog : NodeCatalog) (nodes : List Node) (edges : List Edge)
    (offset offset' : Float) (valid : (validate catalog ⟨true, offset⟩ nodes edges).valid = true) :
    let stages := Stages.run catalog ⟨true, offset⟩ nodes edges
    let repaired := validate catalog ⟨true, offset⟩ nodes edges
    (validate catalog ⟨false, offset'⟩ repaired.fixedNodes repaired.fixedEdges).valid = true ↔
      (∀ node ∈ repaired.insertedNodes, Completion.Completes catalog node) ∧
      ∀ e ∈ repaired.fixedEdges, stages.OnConverter e →
        Port.connection? catalog repaired.fixedNodes e ≠ some .incompatible := by
  intro stages repaired
  obtain ⟨feeds, detours, repairs⟩ := Stages.exists_repairs catalog nodes edges offset
  rw [Stages.valid_run_iff, Completion.not_blocked_iff, Stages.not_blocked_fed_iff] at valid
  obtain ⟨complete, connected, acyclic⟩ := valid
  have same :
      (validate catalog ⟨false, offset'⟩ repaired.fixedNodes repaired.fixedEdges).fixedEdges =
        repaired.fixedEdges :=
    congrArg (·.edges.toList)
      (Stages.draft_run catalog repaired.fixedNodes repaired.fixedEdges offset')
  have completed : ∀ node ∈ (Completion.ofNodes catalog nodes).nodes,
      Completion.Completes catalog node := by
    rw [Completion.ofNodes, List.forall_mem_map]
    exact fun node mem => (complete node mem).completeNode
  -- Cycles were looked for in the very edges that are returned: nodes and edges remain.
  rw [Stages.valid_run_iff, Completion.not_blocked_iff, Stages.not_blocked_ports_iff, same,
    and_iff_left acyclic]
  have fixed : repaired.fixedNodes = _ := repairs.fixedNodes_eq rfl
  refine and_congr ?_ ⟨fun compatible e mem _ => (compatible e mem).2, fun compatible e mem => ?_⟩
  · rw [fixed, List.forall_mem_append]
    exact and_iff_right completed
  · refine ⟨repairs.attached (fun e mem => (connected e mem).1) mem, ?_⟩
    by_cases on : stages.OnConverter e
    · exact compatible e mem on
    · obtain ⟨plan, planned, -⟩ := repairs.kept_of_not_onConverter mem on
      have kept : e ∈ stages.fed.draft.edges.toList := by
        rw [← Repair.Converter.edges_plans catalog stages.ports]
        exact List.mem_map_of_mem planned
      have same : Port.connection? catalog repaired.fixedNodes e = _ :=
        repairs.connection?_converted on
      rw [same]
      exact (connected e kept).2

/-- The converter is listed, its ports fit, and the entry that it requires has a default. -/
theorem verdict_of_repair_listed :
    let catalog : Catalog := ⟨[⟨"loader", ⟨[], [⟨"out", "json", false⟩]⟩, []⟩,
      ⟨"viewer", ⟨[⟨"in", "text", true⟩], []⟩, []⟩,
      ⟨"stringify", ⟨[⟨"in", "json", true⟩], [⟨"out", "text", false⟩]⟩, [⟨"indent", true, none⟩]⟩],
      by decide⟩
    let nodes : List Node := [⟨"a", "loader", .origin, []⟩, ⟨"b", "viewer", .origin, []⟩]
    let edges : List Edge := [⟨"e", "a", "b", none, none⟩]
    let repaired := validate catalog ⟨true, 250⟩ nodes edges
    repaired.valid = true ∧ repaired.insertedNodes.map (·.type) = ["stringify"] ∧
      (validate catalog ⟨false, 250⟩ repaired.fixedNodes repaired.fixedEdges).valid = true := by
  intro catalog nodes edges repaired
  have valid : repaired.valid = true := by decide +kernel
  have types : repaired.insertedNodes.map (·.type) = ["stringify"] := by decide +kernel
  have complete : ∀ node ∈ repaired.insertedNodes, Completion.Completes catalog node := by
    rw [← Completion.not_blocked_iff, Blocked]
    decide +kernel
  have compatible : ∀ e ∈ repaired.fixedEdges,
      Port.connection? catalog repaired.fixedNodes e ≠ some .incompatible := by decide +kernel
  exact ⟨valid, types, (verdict_of_repair catalog nodes edges 250 250 valid).mpr
    ⟨complete, fun e mem _ => compatible e mem⟩⟩

/-- No definition lists the converter: it is inserted all the same, and the verdict that the
workflow is valid holds of it no more. -/
theorem verdict_of_repair_unlisted :
    let catalog : Catalog := ⟨[⟨"loader", ⟨[], [⟨"out", "json", false⟩]⟩, []⟩,
      ⟨"viewer", ⟨[⟨"in", "text", true⟩], []⟩, []⟩], by decide⟩
    let nodes : List Node := [⟨"a", "loader", .origin, []⟩, ⟨"b", "viewer", .origin, []⟩]
    let edges : List Edge := [⟨"e", "a", "b", none, none⟩]
    let repaired := validate catalog ⟨true, 250⟩ nodes edges
    repaired.valid = true ∧
      (validate catalog ⟨false, 250⟩ repaired.fixedNodes repaired.fixedEdges).valid = false := by
  decide +kernel

end Dataflow
