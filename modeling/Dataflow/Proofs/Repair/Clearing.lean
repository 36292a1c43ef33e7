import Dataflow.Proofs.Repair.Conservation
import Dataflow.Proofs.Repair.Reach

/-! Repairs against the reports that they go by.

The check and the repair of a stage meet in reports only, which name a node or an edge. Where
ids of nodes are different, the report of a missing input leads back to its node, and every
one of them is cleared by a source (`Stages.Repairs.missing_eq`). The one edge to that node is
the source's, or comes out of a converter behind it (`Stages.FedBy`). The report of an edge may
name others with it; but an edge is led through a converter just if it was reported itself
(`Repair.Converter.Detoured.reports`). So there are as many repairs as reports
(`cleared_of_repair`). -/
namespace Dataflow

open Repair.Converter (Detour Detoured Arrives)

namespace Repair.Source

/-- Where ids are different, the port to feed of a node is its first required input. -/
theorem target?_eq (catalog : NodeCatalog) {d : Draft} (indexed : d.Indexed)
    (distinct : (d.nodes.toList.map (·.id)).Nodup) {node : Node} (mem : node ∈ d.nodes.toList) :
    target? catalog d node.id =
      (Port.Supply.required catalog node.type).head?.map fun port => (node, port) := by
  rw [target?, indexed.node?_eq_some distinct mem, Option.map_eq_bind]
  rfl

/-- No edge comes from the sources to an id that was not fed. -/
theorem filter_edges_eq_nil {feeds : List Feed} {id : String}
    (unfed : id ∉ feeds.map (·.target.id)) :
    ((feeds.map (·.edge)).filter fun e => e.target = id) = [] := by
  rw [List.filter_map, List.map_eq_nil_iff, List.filter_eq_nil_iff]
  intro feed mem same
  exact unfed (decide_eq_true_eq.mp same ▸ List.mem_map_of_mem mem)

/-- Where no node is fed twice, one edge comes from the sources to each. -/
theorem filter_edges {feeds : List Feed} (once : (feeds.map (·.target.id)).Nodup) {feed : Feed}
    (mem : feed ∈ feeds) :
    ((feeds.map (·.edge)).filter fun e => e.target = feed.target.id) = [feed.edge] := by
  obtain ⟨before, after, rfl⟩ := List.append_of_mem mem
  rw [List.map_append, List.map_cons, List.nodup_middle, List.nodup_cons, List.mem_append,
    not_or] at once
  obtain ⟨⟨off_before, off_after⟩, -⟩ := once
  rw [List.map_append, List.map_cons, List.filter_append, filter_edges_eq_nil off_before,
    List.filter_cons_of_pos (by simp [Feed.edge]), filter_edges_eq_nil off_after, List.nil_append]

end Repair.Source

namespace Stages

section
variable {catalog : NodeCatalog} {nodes : List Node} {edges : List Edge} {offset : Float}

/-- Where the given ids are different, those of the completed nodes are. -/
theorem nodup_draft (distinct : (nodes.map (·.id)).Nodup) :
    ((draft catalog nodes edges).nodes.toList.map (·.id)).Nodup := by
  rwa [ids_draft]

namespace Repairs

variable {s : Stages} {feeds : List Repair.Source.Feed} {detours : List Detour}
  (repairs : Repairs catalog offset (draft catalog nodes edges) s feeds detours)
  (distinct : (nodes.map (·.id)).Nodup)
include repairs distinct

/-- Every node that lacks an input is fed, in the order of the nodes. -/
theorem fed_eq : feeds.map (fun feed => (feed.target, feed.port)) =
    (draft catalog nodes edges).nodes.toList.filterMap fun node =>
      (Port.Supply.lacking? catalog edges node).map fun port => (node, port) := by
  rw [repairs.fed, repairs.inputs, Repair.Source.targets, Port.Supply.filter_missing_check,
    List.filterMap_filterMap, List.filterMap_filterMap]
  refine List.filterMap_congr fun node mem => ?_
  have given : (draft catalog nodes edges).edges.toList = edges := rfl
  rw [given]
  cases lacking : Port.Supply.lacking? catalog edges node with
  | none => rfl
  | some port =>
    obtain ⟨-, first⟩ := Port.Supply.lacking?_eq_some_iff.mp lacking
    have found := Repair.Source.target?_eq catalog (indexed_draft catalog nodes edges)
      (nodup_draft distinct) mem
    rw [first] at found
    exact found

/-- **Every report of a missing input is cleared**, by one source. -/
theorem missing_eq : s.inputs.filter (fun i => i.kind == .missingRequiredInput) =
    feeds.map fun feed => Port.Supply.missing feed.target.id feed.port := by
  have fed := congrArg (List.map fun p => Port.Supply.missing p.1.id p.2) (repairs.fed_eq distinct)
  rw [List.map_map, List.map_filterMap] at fed
  rw [repairs.inputs, Port.Supply.filter_missing_check]
  simp only [Option.map_map] at fed
  exact fed.symm

/-- A node that is fed lacks the input. -/
theorem lacking_of_fed {feed : Repair.Source.Feed} (mem : feed ∈ feeds) :
    feed.target ∈ (draft catalog nodes edges).nodes.toList ∧
      Port.Supply.lacking? catalog edges feed.target = some feed.port := by
  have fed : (feed.target, feed.port) ∈ feeds.map fun feed => (feed.target, feed.port) :=
    List.mem_map_of_mem mem
  rw [repairs.fed_eq distinct, List.mem_filterMap] at fed
  obtain ⟨node, node_mem, found⟩ := fed
  obtain ⟨port, lacking, eq⟩ := Option.map_eq_some_iff.mp found
  obtain ⟨rfl, rfl⟩ := Prod.mk.inj eq
  exact ⟨node_mem, lacking⟩

/-- A node that lacks an input is fed. -/
theorem fed_of_lacking {node : Node} (mem : node ∈ (draft catalog nodes edges).nodes.toList)
    {port : PortDefinition} (lacking : Port.Supply.lacking? catalog edges node = some port) :
    ∃ feed ∈ feeds, feed.target = node ∧ feed.port = port := by
  have fed : (node, port) ∈ feeds.map fun feed => (feed.target, feed.port) := by
    rw [repairs.fed_eq distinct, List.mem_filterMap]
    exact ⟨node, mem, by rw [lacking, Option.map_some]⟩
  obtain ⟨feed, feed_mem, eq⟩ := List.mem_map.mp fed
  exact ⟨feed, feed_mem, Prod.mk.inj eq⟩

/-- No node is fed twice. -/
theorem nodup_fed : (feeds.map (·.target.id)).Nodup := by
  have fed := congrArg (List.map Prod.fst) (repairs.fed_eq distinct)
  have lacking (node : Node) :
      ((Port.Supply.lacking? catalog edges node).map fun port => (node, port)).map Prod.fst =
        Option.guard (fun node => (Port.Supply.lacking? catalog edges node).isSome) node := by
    cases found : Port.Supply.lacking? catalog edges node <;> simp [Option.guard, found]
  simp only [List.map_map, List.map_filterMap, lacking, List.filterMap_eq_filter] at fed
  have targets : (feeds.map (·.target)).Sublist (draft catalog nodes edges).nodes.toList := by
    have listed : feeds.map (·.target) = _ := fed
    exact listed ▸ List.filter_sublist
  have ids := (targets.map (·.id)).nodup (nodup_draft distinct)
  rwa [List.map_map] at ids

end Repairs

end

/-- A source was inserted for the node of an id, and one edge leads to the node: that of the
source, or one that comes out of a converter behind the source. -/
structure FedBy (s : Stages) (given : List Edge) (id : String) (port : PortDefinition)
    (source : Node) (link last : Edge) : Prop where
  mem : source ∈ s.sources
  reported : Repair.Source.inserted source.id source.type port.name id ∈
    s.result.ofKind .repairApplied
  /-- Of the edges out of sources, only this one led to the node. -/
  linked : ((s.sourceEdges given).filter fun e => e.target = id) = [link] ∧ link.source = source.id
  /-- Of all edges, only this one leads to the node in the end, and it names the port. -/
  fed : (s.result.fixedEdges.filter fun e => e.target = id) = [last] ∧
    last.targetHandle = some port.name
  path : last = link ∨ ∃ converter ∈ s.converters, last.source = converter.id ∧
    ∃ first ∈ s.result.fixedEdges, first.source = source.id ∧ first.target = converter.id

/-- How a repaired workflow clears the reports, by some detours. -/
structure Clears (catalog : NodeCatalog) (nodes : List Node) (edges : List Edge) (s : Stages)
    (detours : List Detour) : Prop where
  /-- There are as many repairs as there are reports that call for one. -/
  count : (s.result.ofKind .repairApplied).length =
    (s.result.ofKind .missingRequiredInput).length +
      (s.result.ofKind .convertibleTypeMismatch).length
  /-- Every report of a missing input is of a node that lacks its first required one, and the
  node is fed. -/
  fed : ∀ issue ∈ s.result.ofKind .missingRequiredInput, ∃ node ∈ nodes, ∃ port,
    (Port.Supply.required catalog node.type).head? = some port ∧
      issue = Port.Supply.missing node.id port ∧
      ∃ source link last, s.FedBy edges node.id port source link last
  /-- Every source has one edge. -/
  sources : (s.sourceEdges edges).map (·.source) = s.sources.map (·.id)
  /-- Every edge that needed a converter when ports were checked is led through one, -/
  converted : Detoured (Port.connection? catalog s.fed.draft.nodes.toList)
    s.fed.draft.edges.toList s.result.fixedEdges detours
  /-- which is a new node of its own, -/
  converters : s.converters = detours.map (·.node) ∧
    Draft.Apart s.fed.draft.nodes.toList s.converters
  /-- of the type that the report of the edge names. -/
  reported : List.Forall₂ (Detour.ReportedBy catalog s.fed.draft.nodes.toList)
    (s.result.ofKind .convertibleTypeMismatch) detours

section
variable {catalog : NodeCatalog} {nodes : List Node} {edges : List Edge} {offset : Float}
  {feeds : List Repair.Source.Feed} {detours : List Detour}

/-- A node that is fed gets its input from its source. -/
theorem Repairs.fedBy {s : Stages}
    (repairs : Repairs catalog offset (draft catalog nodes edges) s feeds detours)
    (kinds : s.Kinds) (distinct : (nodes.map (·.id)).Nodup) {feed : Repair.Source.Feed}
    (mem : feed ∈ feeds) : ∃ last, s.FedBy edges feed.target.id feed.port (feed.source offset)
      feed.edge last := by
  have source_edges : s.sourceEdges edges = feeds.map (·.edge) := repairs.sourceEdges_eq
  have link := Repair.Source.filter_edges (repairs.nodup_fed distinct) mem
  obtain ⟨-, lacking⟩ := repairs.lacking_of_fed distinct mem
  have unfed : (edges.filter fun e => e.target = feed.target.id) = [] :=
    indegree_eq_zero_iff.mp (Port.Supply.lacking?_eq_some_iff.mp lacking).1
  have before : (s.fed.draft.edges.toList.filter fun e => e.target = feed.target.id) =
      [feed.edge] := by
    rw [repairs.feeding.edges, List.filter_append, link]
    exact congrArg (· ++ [feed.edge]) unfed
  have off := repairs.target_not_mem_new (List.mem_map_of_mem (f := (·.target.id)) mem)
  have arrives := repairs.detoured.into fun new => off (List.mem_append_right _ new)
  rw [before, List.forall₂_cons_left_iff] at arrives
  obtain ⟨last, others, arrives, none, after⟩ := arrives
  obtain rfl := List.forall₂_nil_left_iff.mp none
  refine ⟨last, ?_⟩
  exact {
    mem := by
      rw [repairs.sources_eq rfl]
      exact List.mem_map_of_mem mem
    reported := by
      rw [kinds.ofKind_repairApplied, repairs.feeding.issues]
      exact List.mem_append_left _ (List.mem_map_of_mem mem)
    linked := ⟨source_edges ▸ link, rfl⟩
    fed := ⟨after, arrives.targetHandle_eq⟩
    path := by
      refine arrives.imp_right fun detoured => ?_
      obtain ⟨detour, detour_mem, led, rfl⟩ := detoured
      refine ⟨detour.node, repairs.converters_eq ▸ List.mem_map_of_mem detour_mem, rfl,
        detour.into, (repairs.detoured.edges_mem detour_mem).1, ?_, rfl⟩
      show detour.edge.source = feed.sourceId
      rw [led]
      rfl }

theorem clears_run
    (repairs : Repairs catalog offset (draft catalog nodes edges)
      (run catalog ⟨true, offset⟩ nodes edges) feeds detours)
    (distinct : (nodes.map (·.id)).Nodup) :
    Clears catalog nodes edges (run catalog ⟨true, offset⟩ nodes edges) detours := by
  have kinds := kinds_run catalog ⟨true, offset⟩ nodes edges
  have conserves := conserves_run repairs
  have missing := repairs.missing_eq distinct
  have reports := repairs.detoured.reports repairs.feeding.indexed
  have of_ports := kinds.ofKind_eq .convertibleTypeMismatch
  have of_inputs := kinds.ofKind_eq .missingRequiredInput
  simp only [reportsOf] at of_ports of_inputs
  rw [← Port.Ends.check, ← repairs.ports, ← of_ports] at reports
  rw [← of_inputs] at missing
  exact {
    count := by
      rw [kinds.ofKind_repairApplied, repairs.feeding.issues, repairs.converting.issues, missing,
        reports.length_eq]
      simp only [List.length_append, List.length_map]
    fed := by
      rw [missing, List.forall_mem_map]
      intro feed mem
      obtain ⟨target_mem, lacking⟩ := repairs.lacking_of_fed distinct mem
      obtain ⟨node, node_mem, eq⟩ := List.mem_map.mp target_mem
      have id := Completion.completeNode_id catalog node
      have type := Completion.completeNode_type catalog node
      rw [eq] at id type
      refine ⟨node, node_mem, feed.port, ?_, by rw [id], feed.source offset, feed.edge, ?_⟩
      · rw [← type]
        exact (Port.Supply.lacking?_eq_some_iff.mp lacking).2
      · rw [← id]
        exact repairs.fedBy kinds distinct mem
    sources := conserves.fed.2
    converted := repairs.detoured
    converters := ⟨repairs.converters_eq, repairs.converters_eq ▸ repairs.converting.apart⟩
    reported := reports }

end

end Stages

/-- **Every report that calls for a repair is cleared in the run that makes it.** There is one
repair for each. A node that lacks its first required input gets one edge, by the name of that
input, from a source of its own or from a converter behind the source. Every edge that needs a
converter, whatever id it shares, is led through one of its own, of the type that its report
names. -/
theorem cleared_of_repair (catalog : NodeCatalog) (nodes : List Node) (edges : List Edge)
    (offset : Float) (distinct : (nodes.map (·.id)).Nodup) :
    ∃ detours, (Stages.run catalog ⟨true, offset⟩ nodes edges).Clears catalog nodes edges
      detours := by
  obtain ⟨feeds, detours, repairs⟩ := Stages.exists_repairs catalog nodes edges offset
  exact ⟨detours, Stages.clears_run repairs distinct⟩

/-- Two edges that share an id both need a converter, and so does the edge of the source. -/
theorem cleared_of_repair_shared :
    let port (type : String) (required : Bool) : PortDefinition := ⟨"port", type, required⟩
    let catalog : Catalog := ⟨[⟨"loader", ⟨[], [port "json" false]⟩, []⟩,
      ⟨"viewer", ⟨[port "text" true], []⟩, []⟩, ⟨"file-source", ⟨[], [port "json" false]⟩, []⟩],
      by decide⟩
    let nodes : List Node := [⟨"a", "loader", .origin, []⟩, ⟨"b", "viewer", .origin, []⟩,
      ⟨"c", "viewer", .origin, []⟩, ⟨"d", "viewer", .origin, []⟩]
    let edges : List Edge := [⟨"e", "a", "b", none, none⟩, ⟨"e", "a", "c", none, none⟩]
    let stages := Stages.run catalog ⟨true, 250⟩ nodes edges
    (nodes.map (·.id)).Nodup ∧ stages.sources.map (·.id) = ["auto-file-source-1"] ∧
      stages.converters.map (·.id) =
        ["auto-stringify-1", "auto-stringify-2", "auto-stringify-3"] ∧
      ∃ detours, stages.Clears catalog nodes edges detours := by
  intro port catalog nodes edges stages
  have distinct : (nodes.map (·.id)).Nodup := by decide
  have sources : stages.sources.map (·.id) = ["auto-file-source-1"] := by decide +kernel
  have converters : stages.converters.map (·.id) =
      ["auto-stringify-1", "auto-stringify-2", "auto-stringify-3"] := by decide +kernel
  exact ⟨distinct, sources, converters, cleared_of_repair catalog nodes edges 250 distinct⟩

end Dataflow
