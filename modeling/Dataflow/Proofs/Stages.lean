import Dataflow.Proofs.Config.Completion
import Dataflow.Proofs.Repair.Converter
import Dataflow.Proofs.Repair.Source
import Dataflow.Validation

/-! What the stages of a run come to.

A repair is left out when its stage reported nothing that it clears; it would have changed
nothing (`fed_run`, `converted_run`). So a run with repair feeds nodes and then converts
edges (`exists_repairs`), and a run without it leaves the draft alone (`draft_run`). -/
namespace Dataflow

open Draft (Indexed indexed_ofLists)

namespace Repair

/-- Without a report of a missing input, no node is fed. -/
theorem Source.repair_eq_none (catalog : NodeCatalog) (offset : Float) {issues : List Issue}
    (idle : issues.any (fun i => i.kind == .missingRequiredInput) = false) (d : Draft) :
    Source.repair catalog offset issues d = .none d := by
  have none : issues.filter (fun i => i.kind == .missingRequiredInput) = [] := by
    rw [List.filter_eq_nil_iff]
    exact List.any_eq_false.mp idle
  rw [Source.repair, Source.targets, none]
  rfl

namespace Converter

/-- Edges that are all kept leave no trace. -/
theorem convert_keep (edges : List Edge) (d : Draft) :
    convert (edges.map (·, .keep)) d = ⟨edges, .none d⟩ := by
  induction edges with
  | nil => rfl
  | cons e edges ih => simp [convert, convertEdge, ih]

/-- Without a report of a convertible edge, none is converted. -/
theorem repair_eq_none (catalog : NodeCatalog) {issues : List Issue}
    (idle : issues.any (fun i => i.kind == .convertibleTypeMismatch) = false) (d : Draft) :
    repair catalog issues d = .none d := by
  have none : issues.filter (fun i => i.kind == .convertibleTypeMismatch) = [] := by
    rw [List.filter_eq_nil_iff]
    exact List.any_eq_false.mp idle
  have keep : plans catalog issues d = d.edges.toList.map (·, .keep) := by
    simp [plans, Plan.ofEdge, reported, none]
  have events : (d.edges.toList.map (·, Plan.keep)).flatMap (fun p => p.2.events p.1) = [] := by
    simp [Plan.events]
  show Repair.mk _ _ _ = _
  rw [← plans, keep, convert_keep, events]
  rfl

end Converter

end Repair

namespace Stages

theorem repairIf_true {kind : IssueKind} {issues : List Issue} {d : Draft} {repair : Draft → Repair}
    (idle : issues.any (fun i => i.kind == kind) = false → repair d = .none d) :
    repairIf true kind issues d repair = repair d := by
  rw [repairIf, Bool.true_and]
  split
  · rfl
  · next none => exact (idle (by simpa using none)).symm

section
variable (catalog : NodeCatalog) (nodes : List Node) (edges : List Edge)

/-- The draft that the stages start from. -/
def draft : Draft := .ofLists (Completion.ofNodes catalog nodes).nodes edges

theorem indexed_draft : Indexed (draft catalog nodes edges) := indexed_ofLists _ _

theorem ids_draft : (draft catalog nodes edges).nodes.toList.map (·.id) = nodes.map (·.id) := by
  simp [draft, Draft.ofLists, Completion.ofNodes, Completion.completeNode_id, Function.comp_def]

/-- In the draft that the stages start from, an id finds the node that it found, completed. -/
theorem node?_draft (id : String) : (draft catalog nodes edges).node? id =
    (nodes.find? fun n => n.id == id).map fun n => (Completion.completeNode catalog n).1 := by
  rw [(indexed_draft catalog nodes edges).node?_eq_find?]
  exact Completion.find?_nodes catalog nodes id

/-- Without repair the draft stays as it was. -/
theorem draft_run (offset : Float) :
    (run catalog ⟨false, offset⟩ nodes edges).converted.draft = draft catalog nodes edges := by
  simp [run, repairIf, draft]

/-- Without repair ports are checked on the same draft. -/
theorem ports_plain (offset : Float) : (run catalog ⟨false, offset⟩ nodes edges).ports =
    Port.Ends.check catalog (draft catalog nodes edges) := by
  simp [run, repairIf, draft]

theorem fixedNodes_plain (offset : Float) :
    (validate catalog ⟨false, offset⟩ nodes edges).fixedNodes =
      (Completion.ofNodes catalog nodes).nodes :=
  congrArg (·.nodes.toList) (draft_run catalog nodes edges offset)

theorem fixedEdges_plain (offset : Float) :
    (validate catalog ⟨false, offset⟩ nodes edges).fixedEdges = edges :=
  congrArg (·.edges.toList) (draft_run catalog nodes edges offset)

/-- Nodes are fed if that is wanted and an input is missing. -/
theorem fed_eq (options : Options) : (run catalog options nodes edges).fed =
    repairIf options.autoFix .missingRequiredInput (run catalog options nodes edges).inputs
      (draft catalog nodes edges) (Repair.Source.repair catalog options.sourceOffsetX
        (run catalog options nodes edges).inputs) := rfl

/-- Edges are converted if that is wanted and one can be. -/
theorem converted_eq (options : Options) : (run catalog options nodes edges).converted =
    repairIf options.autoFix .convertibleTypeMismatch (run catalog options nodes edges).ports
      (run catalog options nodes edges).fed.draft
      (Repair.Converter.repair catalog (run catalog options nodes edges).ports) := rfl

/-- Cycles are looked for in the draft that is left at the end. -/
theorem cycles_run (options : Options) : (run catalog options nodes edges).cycles =
    Graph.Cycle.check (run catalog options nodes edges).converted.draft := rfl

variable (offset : Float)

theorem fed_run : (run catalog ⟨true, offset⟩ nodes edges).fed =
    Repair.Source.repair catalog offset (run catalog ⟨true, offset⟩ nodes edges).inputs
      (draft catalog nodes edges) :=
  repairIf_true fun idle => Repair.Source.repair_eq_none catalog offset idle _

theorem converted_run : (run catalog ⟨true, offset⟩ nodes edges).converted =
    Repair.Converter.repair catalog (run catalog ⟨true, offset⟩ nodes edges).ports
      (run catalog ⟨true, offset⟩ nodes edges).fed.draft :=
  repairIf_true fun idle => Repair.Converter.repair_eq_none catalog idle _

/-- What the repairs of a run come to: the nodes that were fed, and the edges that were
converted. -/
structure Repairs (d : Draft) (s : Stages) (feeds : List Repair.Source.Feed)
    (detours : List Repair.Converter.Detour) : Prop where
  inputs : s.inputs = Port.Supply.check catalog d
  feeding : Repair.Source.Feeding offset (Repair.Source.targets s.inputs) d s.fed feeds
  fed : feeds.map (fun feed => (feed.target, feed.port)) =
    (Repair.Source.targets s.inputs).filterMap (Repair.Source.target? catalog d)
  ports : s.ports = Port.Ends.check catalog s.fed.draft
  converting : Repair.Converter.Converting
    ((Repair.Converter.plans catalog s.ports s.fed.draft).flatMap fun p => p.2.events p.1)
    (Repair.Converter.plans catalog s.ports s.fed.draft) s.fed.draft
    s.converted.draft.edges.toList s.converted detours

/-- **A run with repair feeds nodes and then converts edges.** -/
theorem exists_repairs : ∃ feeds detours, Repairs catalog offset (draft catalog nodes edges)
    (run catalog ⟨true, offset⟩ nodes edges) feeds detours := by
  obtain ⟨feeds, feeding, fed⟩ := Repair.Source.feeding_insertAll catalog offset
    (Repair.Source.targets (run catalog ⟨true, offset⟩ nodes edges).inputs)
    (indexed_draft catalog nodes edges) (Repair.Source.target_mem_nodes catalog _)
  rw [← Repair.Source.repair, ← fed_run] at feeding
  obtain ⟨detours, converting⟩ := Repair.Converter.converting_repair catalog
    (run catalog ⟨true, offset⟩ nodes edges).ports _ feeding.indexed
  rw [← converted_run] at converting
  exact ⟨feeds, detours, rfl, feeding, fed, rfl, converting⟩

end

/-! ### Inserted nodes -/

/-- The nodes that were inserted to feed others. -/
def sources (s : Stages) : List Node := s.fed.draft.inserted.toList

/-- The edges out of the sources, behind the edges that were given. -/
def sourceEdges (s : Stages) (given : List Edge) : List Edge :=
  s.fed.draft.edges.toList.drop given.length

/-- The nodes that were inserted to convert edges. -/
def converters (s : Stages) : List Node :=
  s.converted.draft.inserted.toList.drop s.fed.draft.inserted.size

namespace Repairs

variable {catalog : NodeCatalog} {offset : Float} {d : Draft} {s : Stages}
  {feeds : List Repair.Source.Feed} {detours : List Repair.Converter.Detour}

theorem sources_eq (repairs : Repairs catalog offset d s feeds detours) (first : d.inserted = #[]) :
    s.sources = feeds.map (·.source offset) := by
  rw [sources, repairs.feeding.inserted, first]
  rfl

theorem sourceEdges_eq (repairs : Repairs catalog offset d s feeds detours) :
    s.sourceEdges d.edges.toList = feeds.map (·.edge) := by
  rw [sourceEdges, repairs.feeding.edges, List.drop_left]

theorem converters_eq (repairs : Repairs catalog offset d s feeds detours) :
    s.converters = detours.map (·.node) := by
  rw [converters, repairs.converting.inserted, ← Array.length_toList, List.drop_left]

theorem insertedNodes_eq (repairs : Repairs catalog offset d s feeds detours) :
    s.result.insertedNodes = s.sources ++ s.converters := by
  rw [repairs.converters_eq]
  exact repairs.converting.inserted

/-- When ports are checked, the sources are there. -/
theorem nodes_fed (repairs : Repairs catalog offset d s feeds detours) (first : d.inserted = #[]) :
    s.fed.draft.nodes.toList = d.nodes.toList ++ s.sources := by
  rw [repairs.sources_eq first, repairs.feeding.nodes]

/-- When ports are checked, the edges of the sources are there. -/
theorem edges_fed (repairs : Repairs catalog offset d s feeds detours) :
    s.fed.draft.edges.toList = d.edges.toList ++ s.sourceEdges d.edges.toList := by
  rw [repairs.sourceEdges_eq, repairs.feeding.edges]

/-- The converters come last. -/
theorem fixedNodes_fed (repairs : Repairs catalog offset d s feeds detours) :
    s.result.fixedNodes = s.fed.draft.nodes.toList ++ s.converters := by
  rw [repairs.converters_eq]
  exact repairs.converting.nodes

theorem fixedNodes_eq (repairs : Repairs catalog offset d s feeds detours)
    (first : d.inserted = #[]) :
    s.result.fixedNodes = d.nodes.toList ++ s.result.insertedNodes := by
  rw [repairs.fixedNodes_fed, repairs.nodes_fed first, repairs.insertedNodes_eq, List.append_assoc]

theorem ids_inserted (repairs : Repairs catalog offset d s feeds detours)
    (first : d.inserted = #[]) : s.result.insertedNodes.map (·.id) =
      feeds.map (·.sourceId) ++ detours.map (·.nodeId) := by
  rw [repairs.insertedNodes_eq, repairs.sources_eq first, repairs.converters_eq, List.map_append,
    Repair.Source.ids_sources, Repair.Converter.ids_converters]

/-- The inserted nodes have ids of their own. -/
theorem apart_inserted (repairs : Repairs catalog offset d s feeds detours)
    (first : d.inserted = #[]) : Draft.Apart d.nodes.toList s.result.insertedNodes := by
  have apart := repairs.converting.apart
  rw [repairs.feeding.nodes] at apart
  rw [repairs.insertedNodes_eq, repairs.sources_eq first, repairs.converters_eq]
  exact repairs.feeding.apart.append apart

end Repairs

end Stages

end Dataflow
