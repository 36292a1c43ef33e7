import Dataflow.Proofs.Repair.Insertion
import Dataflow.Proofs.Reports

/-! Cycles in a repaired workflow.

Only the cycle check reports paths (`cyclePaths_run`), and it looks at the repaired
workflow. Sources and converters are inserted into the graph one repair after the other,
so the paths that are reported with repair are those that are reported without it, but
for the inserted nodes on them (`cyclePaths_of_repair`). -/
namespace Dataflow

open Dataflow.Graph Dataflow.Graph.Cycle

/-! ### Paths that are reported -/

theorem cyclePaths_eq_nil {issues : List Issue} (none : ∀ issue ∈ issues, issue.path = none) :
    cyclePaths issues = [] := by
  rw [cyclePaths, List.filterMap_eq_nil_iff]
  exact fun issue mem => none issue (List.mem_filter.mp mem).1

section
variable (catalog : NodeCatalog) (nodes : List Node) (edges : List Edge)

/-- The paths of a run are those of its cycle check. -/
theorem cyclePaths_run (options : Options)
    (fed : ∀ issue ∈ (Stages.run catalog options nodes edges).fed.issues, issue.path = none)
    (converted : ∀ issue ∈ (Stages.run catalog options nodes edges).converted.issues,
      issue.path = none) :
    cyclePaths (validate catalog options nodes edges).issues =
      paths (ofDraft (Stages.run catalog options nodes edges).converted.draft) := by
  have completed := (ofKinds_completion catalog nodes).path_eq_none (by decide)
  have inputs (d : Draft) := (ofKinds_supply catalog d).path_eq_none (by decide)
  have ports (d : Draft) := (ofKinds_ends catalog d).path_eq_none (by decide)
  show cyclePaths (Stages.run catalog options nodes edges).issues = _
  rw [Stages.issues, cyclePaths_append, cyclePaths_eq_nil, List.nil_append]
  · exact cyclePaths_check _
  · simp only [List.forall_mem_append]
    exact ⟨⟨⟨⟨completed, inputs _⟩, fed⟩, ports _⟩, converted⟩

variable (offset : Float)

/-- Without repair the paths are those of the given edges. -/
theorem cyclePaths_plain : cyclePaths (validate catalog ⟨false, offset⟩ nodes edges).issues =
    paths (ofLists (Completion.ofNodes catalog nodes).nodes edges) := by
  rw [cyclePaths_run, Stages.draft_run]
  · rfl
  · simp [Stages.run, Stages.repairIf]
  · simp [Stages.run, Stages.repairIf]

/-- With repair they are those of the edges that are left. -/
theorem cyclePaths_repaired {feeds : List Repair.Source.Feed}
    {detours : List Repair.Converter.Detour}
    (repairs : Stages.Repairs catalog offset (Stages.draft catalog nodes edges)
      (Stages.run catalog ⟨true, offset⟩ nodes edges) feeds detours) :
    cyclePaths (validate catalog ⟨true, offset⟩ nodes edges).issues =
      paths (ofDraft (Stages.run catalog ⟨true, offset⟩ nodes edges).converted.draft) := by
  apply cyclePaths_run
  · rw [repairs.feeding.issues, List.forall_mem_map]
    intro feed mem
    rfl
  · rw [repairs.converting.issues, List.forall_mem_map]
    intro detour mem
    rfl

end

namespace Stages.Repairs

variable {catalog : NodeCatalog} {offset : Float} {d : Draft} {s : Stages}
  {feeds : List Repair.Source.Feed} {detours : List Repair.Converter.Detour}

/-- The graph with sources in it. -/
theorem insertion_sources (repairs : Repairs catalog offset d s feeds detours)
    (free : ∀ id ∈ endpoints d.edges.toList, id ∉ feeds.map (·.sourceId)) :
    Insertion d.nodes.toList (feeds.map (·.source offset)) d.edges.toList
      s.fed.draft.edges.toList :=
  repairs.feeding.insertion (repairs.inputs ▸ Repair.Source.target_mem_nodes catalog d) free

/-- The graph with converters in it as well. -/
theorem insertion_converters (repairs : Repairs catalog offset d s feeds detours)
    (free : ∀ id ∈ endpoints d.edges.toList, id ∉ detours.map (·.nodeId)) :
    Insertion s.fed.draft.nodes.toList (detours.map (·.node)) s.fed.draft.edges.toList
      s.converted.draft.edges.toList := by
  have apart := repairs.converting.apart.not_mem
  rw [Repair.Converter.ids_converters] at apart
  have ends : ∀ detour ∈ detours, detour.edge.source ∈ s.fed.draft.nodes.toList.map (·.id) ∧
      detour.edge.target ∈ s.fed.draft.nodes.toList.map (·.id) := by
    intro detour mem
    simp only [List.mem_map]
    exact Repair.Converter.ends_of_through catalog s.ports s.fed.draft repairs.feeding.indexed
      (repairs.converting.carried.plan_mem detour mem)
  have fed_free : ∀ id ∈ endpoints s.fed.draft.edges.toList, id ∉ detours.map (·.nodeId) := by
    rw [repairs.feeding.edges, endpoints_append, List.forall_mem_append]
    have targets := repairs.inputs ▸ Repair.Source.target_mem_nodes catalog d
    exact ⟨free, fun id mem => apart id (repairs.feeding.ends_mem targets id mem)⟩
  rw [← Repair.Converter.edges_plans catalog s.ports s.fed.draft] at fed_free ⊢
  exact repairs.converting.carried.insertion repairs.converting.apart ends fed_free

/-- The paths with repair, without what was inserted. -/
theorem paths_eq (repairs : Repairs catalog offset d s feeds detours)
    (free : ∀ id ∈ endpoints d.edges.toList,
      id ∉ feeds.map (·.sourceId) ++ detours.map (·.nodeId)) :
    ((paths (ofDraft s.converted.draft)).map
      (old (feeds.map (·.sourceId) ++ detours.map (·.nodeId)))).eraseDups = paths (ofDraft d) := by
  have fed := repairs.insertion_sources fun id mem new =>
    free id mem (List.mem_append_left _ new)
  have converted := repairs.insertion_converters fun id mem new =>
    free id mem (List.mem_append_right _ new)
  have both : old (feeds.map (·.sourceId) ++ detours.map (·.nodeId)) =
      old (feeds.map (·.sourceId)) ∘ old (detours.map (·.nodeId)) := by
    funext path
    simp [old, not_or]
  have sources := fed.paths_eq
  have converters := converted.paths_eq
  rw [Repair.Source.ids_sources, ← repairs.feeding.nodes] at sources
  rw [Repair.Converter.ids_converters, ← repairs.converting.nodes] at converters
  rw [both, ← List.map_map, ← eraseDups_map_eraseDups, ofDraft, converters, sources, ofDraft]

end Stages.Repairs

/-- **Repair leaves the reported cycles as they are**, but for the nodes that it inserts:
taken without these, and each noted once, the paths reported with repair are those reported
without it. Only, no edge may name the id of a node that is inserted. -/
theorem cyclePaths_of_repair (catalog : NodeCatalog) (nodes : List Node) (edges : List Edge)
    (offset : Float)
    (free : ∀ id ∈ endpoints edges,
      id ∉ (validate catalog ⟨true, offset⟩ nodes edges).insertedNodes.map (·.id)) :
    ((cyclePaths (validate catalog ⟨true, offset⟩ nodes edges).issues).map fun path =>
      path.filter fun id =>
        id ∉ (validate catalog ⟨true, offset⟩ nodes edges).insertedNodes.map (·.id)).eraseDups =
      cyclePaths (validate catalog ⟨false, offset⟩ nodes edges).issues := by
  obtain ⟨feeds, detours, repairs⟩ := Stages.exists_repairs catalog nodes edges offset
  have inserted : (validate catalog ⟨true, offset⟩ nodes edges).insertedNodes.map (·.id) =
      feeds.map (·.sourceId) ++ detours.map (·.nodeId) := by
    have all := repairs.converting.inserted
    rw [repairs.feeding.inserted] at all
    show (Stages.run catalog ⟨true, offset⟩ nodes edges).converted.draft.inserted.toList.map _ = _
    rw [all, List.map_append, List.map_append, Repair.Source.ids_sources,
      Repair.Converter.ids_converters]
    rfl
  rw [inserted] at free ⊢
  rw [cyclePaths_repaired catalog nodes edges offset repairs, cyclePaths_plain]
  exact repairs.paths_eq free

/-- Two edges side by side that close one cycle, and two once each has its converter. -/
theorem cyclePaths_of_repair_parallel :
    let port (type : String) : PortDefinition := ⟨"port", type, false⟩
    let catalog : Catalog := ⟨[⟨"api", ⟨[port "json"], [port "json"]⟩, []⟩,
      ⟨"sink", ⟨[port "text"], [port "json"]⟩, []⟩], by decide⟩
    let nodes : List Node := [⟨"b", "sink", .origin, []⟩, ⟨"a", "api", .origin, []⟩]
    let edges : List Edge := [⟨"e", "a", "b", none, none⟩, ⟨"f", "a", "b", none, none⟩,
      ⟨"back", "b", "a", none, none⟩]
    let repaired := validate catalog ⟨true, 250⟩ nodes edges
    let new := repaired.insertedNodes.map (·.id)
    (∀ id ∈ endpoints edges, id ∉ new) ∧
      cyclePaths repaired.issues =
        [["b", "a", "auto-stringify-1", "b"], ["b", "a", "auto-stringify-2", "b"]] ∧
      cyclePaths (validate catalog ⟨false, 250⟩ nodes edges).issues = [["b", "a", "b"]] := by
  intro port catalog nodes edges repaired new
  have inserted : new = ["auto-stringify-1", "auto-stringify-2"] := by decide +kernel
  have free : ∀ id ∈ endpoints edges, id ∉ new := by
    rw [inserted]
    decide
  have found : cyclePaths repaired.issues =
      [["b", "a", "auto-stringify-1", "b"], ["b", "a", "auto-stringify-2", "b"]] := by
    decide +kernel
  have plain := cyclePaths_of_repair catalog nodes edges 250 free
  refine ⟨free, found, plain.symm.trans ?_⟩
  show ((cyclePaths repaired.issues).map (List.filter (· ∉ new))).eraseDups = _
  rw [found, inserted]
  decide

end Dataflow
