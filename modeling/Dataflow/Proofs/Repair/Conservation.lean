import Dataflow.Proofs.Repair.Detour

/-! What becomes of the nodes and edges that are given.

Repair takes nothing away but the edges that it leads through converters. The given nodes are
completed and stay in front of the inserted ones, and an edge is kept or replaced in its place
(`Stages.Repairs.detoured`). What is new has ids of its own (`Stages.Repairs.handedOut`), and
every new node has its report (`Stages.Conserves`). Without repair nodes are completed, and
nothing else happens (`conservation_of_repair`). -/
namespace Dataflow

open Repair.Converter (Detour Detoured)

namespace Stages

namespace Repairs

variable {catalog : NodeCatalog} {offset : Float} {d : Draft} {s : Stages}
  {feeds : List Repair.Source.Feed} {detours : List Detour}
  (repairs : Repairs catalog offset d s feeds detours)
include repairs

/-- The edges that needed a converter when ports were checked are replaced by detours. -/
theorem detoured : Detoured (Port.connection? catalog s.fed.draft.nodes.toList)
    s.fed.draft.edges.toList s.result.fixedEdges detours := by
  rw [← Repair.Converter.edges_plans catalog s.ports s.fed.draft]
  refine repairs.converting.carried.detoured fun p planned type => ?_
  obtain ⟨e, mem, rfl⟩ := List.mem_map.mp planned
  rw [repairs.ports]
  exact Repair.Converter.ofEdge_eq_through_iff repairs.feeding.indexed mem

/-- New edges get ids that no edge had. -/
theorem handedOut : Draft.HandedOut d.takenEdgeIds s.converted.draft.takenEdgeIds
    (feeds.map (·.edgeId) ++ detours.flatMap (·.edgeIds)) :=
  repairs.feeding.edgeIds.trans repairs.converting.edgeIds

omit repairs in
theorem not_given {nodes : List Node} {edges : List Edge}
    (repairs : Repairs catalog offset (draft catalog nodes edges) s feeds detours) {id : String}
    (new : id ∈ feeds.map (·.edgeId) ++ detours.flatMap (·.edgeIds)) : id ∉ edges.map (·.id) :=
  fun given => repairs.handedOut.fresh id new (Draft.mem_takenEdgeIds_ofLists.mpr given)

/-- There is one new edge for each inserted node. -/
theorem length_fixedEdges (first : d.inserted = #[]) : s.result.fixedEdges.length =
    d.edges.toList.length + s.result.insertedNodes.length := by
  rw [repairs.detoured.length_eq, repairs.feeding.edges, repairs.insertedNodes_eq,
    repairs.sources_eq first, repairs.converters_eq]
  simp only [List.length_append, List.length_map]
  omega

end Repairs

/-- How a repaired workflow comes from the one that was given, by some detours. -/
structure Conserves (catalog : NodeCatalog) (nodes : List Node) (edges : List Edge) (s : Stages)
    (detours : List Detour) : Prop where
  /-- The given nodes are completed and stay, and the inserted ones come behind them. -/
  fixedNodes : s.result.fixedNodes =
    (Completion.ofNodes catalog nodes).nodes ++ s.result.insertedNodes
  /-- Sources are inserted first, and then the converters of the detours. -/
  inserted : s.result.insertedNodes = s.sources ++ detours.map (·.node)
  /-- The reports of repairs name the inserted nodes, in their order. -/
  reported : (s.result.ofKind .repairApplied).map (·.nodeId) =
    s.result.insertedNodes.map fun node => some node.id
  /-- One edge comes out of each source, behind the given edges. -/
  fed : s.fed.draft.edges.toList = edges ++ s.sourceEdges edges ∧
    (s.sourceEdges edges).map (·.source) = s.sources.map (·.id)
  /-- Of these edges, those that need a converter are replaced in their place. -/
  fixedEdges : Detoured
    (Port.connection? catalog ((Completion.ofNodes catalog nodes).nodes ++ s.sources))
    (edges ++ s.sourceEdges edges) s.result.fixedEdges detours
  /-- There is one new edge for each inserted node. -/
  length : s.result.fixedEdges.length = edges.length + s.result.insertedNodes.length
  /-- The ids of inserted nodes are different, and no given node has one. -/
  nodeIds : (s.result.insertedNodes.map (·.id)).Nodup ∧
    ∀ node ∈ nodes, node.id ∉ s.result.insertedNodes.map (·.id)
  /-- The ids of edges that were made are different, and no given edge has one. -/
  edgeIds : ((s.sourceEdges edges).map (·.id) ++
      detours.flatMap fun d => [d.into.id, d.out.id]).Nodup ∧
    ∀ e ∈ edges, e.id ∉ (s.sourceEdges edges).map (·.id) ++
      detours.flatMap fun d => [d.into.id, d.out.id]

theorem conserves_run {catalog : NodeCatalog} {nodes : List Node} {edges : List Edge}
    {offset : Float} {feeds : List Repair.Source.Feed} {detours : List Detour}
    (repairs : Repairs catalog offset (draft catalog nodes edges)
      (run catalog ⟨true, offset⟩ nodes edges) feeds detours) :
    Conserves catalog nodes edges (run catalog ⟨true, offset⟩ nodes edges) detours := by
  have sources := repairs.sources_eq rfl
  have source_edges : (run catalog ⟨true, offset⟩ nodes edges).sourceEdges edges =
      feeds.map (·.edge) := repairs.sourceEdges_eq
  have apart := repairs.apart_inserted rfl
  have ids : ((run catalog ⟨true, offset⟩ nodes edges).sourceEdges edges).map (·.id) =
      feeds.map (·.edgeId) := by
    simp [source_edges, Repair.Source.Feed.edge, Function.comp_def]
  exact {
    fixedNodes := repairs.fixedNodes_eq rfl
    inserted := repairs.converters_eq ▸ repairs.insertedNodes_eq
    reported := by
      rw [(kinds_run catalog ⟨true, offset⟩ nodes edges).ofKind_repairApplied,
        repairs.feeding.issues, repairs.converting.issues, repairs.insertedNodes_eq, sources,
        repairs.converters_eq]
      simp only [List.map_append, List.map_map]
      rfl
    fed := by
      refine ⟨repairs.edges_fed, ?_⟩
      rw [source_edges, sources, Repair.Source.ids_sources, List.map_map]
      rfl
    fixedEdges := by
      have detoured := repairs.detoured
      rw [repairs.nodes_fed rfl, repairs.edges_fed] at detoured
      exact detoured
    length := repairs.length_fixedEdges rfl
    nodeIds := by
      refine ⟨apart.nodup, fun node mem => apart.not_mem node.id ?_⟩
      rw [ids_draft]
      exact List.mem_map_of_mem mem
    edgeIds := by
      rw [ids]
      exact ⟨repairs.handedOut.nodup,
        fun e mem new => repairs.not_given new (List.mem_map_of_mem mem)⟩ }

end Stages

/-- **Repair keeps what is given.** The completed nodes come first and the inserted ones last,
and each of these is reported. An edge is left as it is or, if it needs a converter, replaced
in its place by two edges through one; the edges of sources come behind the given ones. All new
ids differ from each other and from those that were given. Without repair the nodes are
completed, and that is all. -/
theorem conservation_of_repair (catalog : NodeCatalog) (nodes : List Node) (edges : List Edge)
    (offset : Float) :
    let plain := validate catalog ⟨false, offset⟩ nodes edges
    (∃ detours, (Stages.run catalog ⟨true, offset⟩ nodes edges).Conserves catalog nodes edges
      detours) ∧
    plain.fixedNodes = (Completion.ofNodes catalog nodes).nodes ∧ plain.insertedNodes = [] ∧
      plain.fixedEdges = edges := by
  intro plain
  obtain ⟨feeds, detours, repairs⟩ := Stages.exists_repairs catalog nodes edges offset
  refine ⟨⟨detours, Stages.conserves_run repairs⟩, ?_⟩
  have same := Stages.draft_run catalog nodes edges offset
  simp only [plain, validate, Stages.result, same, Stages.draft, Draft.ofLists, and_self]

end Dataflow
