import Dataflow.Proofs.Draft.Fresh
import Dataflow.Proofs.Port.Issues
import Dataflow.Repair.Source

/-! What feeding nodes adds to a draft.

Each node that is fed gets a source under a fresh id and one edge from it, at the end of
the nodes and of the edges; nothing else of the draft changes. Of the nodes that lack an
input those are fed that have a port to feed (`feeding_insertAll`), and they are nodes of the
draft (`target_mem_nodes`). -/
namespace Dataflow.Repair.Source

open Draft (Indexed Apart HandedOut)

/-- One node fed: the node, its port, and the ids of the new source and edge. -/
structure Feed where
  target : Node
  port : PortDefinition
  sourceId : String
  edgeId : String

namespace Feed

def type (f : Feed) : String := nodeType f.port.type

def source (offset : Float) (f : Feed) : Node :=
  ⟨f.sourceId, f.type, ⟨f.target.position.x - offset, f.target.position.y⟩, Defaults.config f.type⟩

def edge (f : Feed) : Edge := ⟨f.edgeId, f.sourceId, f.target.id, .none, some f.port.name⟩

def issue (f : Feed) : Issue := inserted f.sourceId f.type f.port.name f.target.id

def event (f : Feed) : Event := .insertedSource f.sourceId f.type f.target.id

end Feed

theorem ids_sources (offset : Float) (feeds : List Feed) :
    (feeds.map (·.source offset)).map (·.id) = feeds.map (·.sourceId) := by
  simp [Feed.source, Function.comp_def]

/-- What a repair adds to a draft by feeding some of the given nodes. -/
structure Feeding (offset : Float) (ids : List String) (d : Draft) (r : Repair)
    (feeds : List Feed) : Prop where
  indexed : Indexed r.draft
  nodes : r.draft.nodes.toList = d.nodes.toList ++ feeds.map (·.source offset)
  edges : r.draft.edges.toList = d.edges.toList ++ feeds.map (·.edge)
  inserted : r.draft.inserted.toList = d.inserted.toList ++ feeds.map (·.source offset)
  issues : r.issues = feeds.map (·.issue)
  events : r.events = feeds.map (·.event)
  apart : Apart d.nodes.toList (feeds.map (·.source offset))
  targets : (feeds.map (·.target.id)).Sublist ids
  edgeIds : HandedOut d.takenEdgeIds r.draft.takenEdgeIds (feeds.map (·.edgeId))

section
variable (catalog : NodeCatalog) (offset : Float)

theorem target?_eq_some {d : Draft} {id : String} {node : Node} {port : PortDefinition}
    (indexed : Indexed d) (h : target? catalog d id = some (node, port)) : node.id = id := by
  simp only [target?, Option.bind_eq_bind, Option.bind_eq_some_iff, Option.pure_def,
    Option.some.injEq, Prod.mk.injEq] at h
  obtain ⟨n, found, _, -, rfl, -⟩ := h
  rw [indexed.node?_eq_find?] at found
  simpa using List.find?_some found

/-- There is a port to feed just if the first node of the id requires one. -/
theorem isSome_target?_iff {d : Draft} {id : String} (indexed : Indexed d) :
    (target? catalog d id).isSome = true ↔ ∃ node,
      (d.nodes.toList.find? fun n => n.id == id) = some node ∧
        Port.Supply.required catalog node.type ≠ [] := by
  rw [target?, indexed.node?_eq_find?]
  cases d.nodes.toList.find? fun n => n.id == id with
  | none => simp
  | some node =>
    simp only [Option.bind_eq_bind, Option.bind_some, Option.some.injEq, exists_eq_left']
    cases Port.Supply.required catalog node.type <;> simp

theorem feeding_nil (d : Draft) (indexed : Indexed d) : Feeding offset [] d (.none d) [] where
  indexed := indexed
  nodes := by simp
  edges := by simp
  inserted := by simp
  issues := rfl
  events := rfl
  apart := .nil
  targets := .slnil
  edgeIds := .refl _

/-- Feeding one node. -/
theorem feeding_insert {d : Draft} (indexed : Indexed d) (node : Node) (port : PortDefinition) :
    ∃ feed : Feed, feed.target = node ∧ feed.port = port ∧
      Feeding offset [node.id] d (insert offset node.id node port d) [feed] := by
  let type := nodeType port.type
  let feed : Feed :=
    ⟨node, port, (d.freshNodeId type).1, (d.freshNodeId type).2.freshEdgeId.1⟩
  refine ⟨feed, rfl, rfl, ?_⟩
  exact {
    indexed := (((indexed.freshNodeId type).freshEdgeId).pushEdge feed.edge).insertNode _
    nodes := by simp [insert, feed, type, Feed.source, Feed.type]
    edges := by simp [insert, feed, type, Feed.edge]
    inserted := Array.toList_push
    issues := rfl
    events := rfl
    apart := .singleton (indexed.not_mem_freshNodeId type)
    targets := .refl _
    edgeIds := (Draft.handedOut_freshEdgeId (d.freshNodeId type).2).insert (List.mem_cons_self ..) }

/-- One feeding after another. -/
theorem Feeding.andThen {ids more : List String} {d : Draft} {r : Repair} {feeds later : List Feed}
    {next : Draft → Repair} (first : Feeding offset ids d r feeds)
    (second : Feeding offset more r.draft (next r.draft) later) :
    Feeding offset (ids ++ more) d (r.andThen next) (feeds ++ later) where
  indexed := second.indexed
  nodes := by simpa [first.nodes] using second.nodes
  edges := by simpa [first.edges] using second.edges
  inserted := by simpa [first.inserted] using second.inserted
  issues := by simp [first.issues, second.issues]
  events := by simp [first.events, second.events]
  apart := by
    have apart := second.apart
    rw [first.nodes] at apart
    simpa using first.apart.append apart
  targets := by simpa using first.targets.append second.targets
  edgeIds := by simpa using first.edgeIds.trans second.edgeIds

/-- Feeding makes no difference to which port of a node is to be fed. -/
theorem Feeding.target?_eq {ids : List String} {d : Draft} {r : Repair} {feeds : List Feed}
    (h : Feeding offset ids d r feeds) (indexed : Indexed d) {id : String}
    (mem : ∃ node ∈ d.nodes.toList, node.id = id) :
    target? catalog r.draft id = target? catalog d id := by
  have found : (d.nodes.toList.find? fun n => n.id == id).isSome = true := by
    simpa [List.find?_isSome] using mem
  rw [target?, target?, h.indexed.node?_eq_find?, indexed.node?_eq_find?, h.nodes,
    List.find?_append, Option.or_of_isSome found]

/-- **Feeding adds sources and edges at the end**, one of each for an id whose node has a port to
feed. -/
theorem feeding_insertAll (ids : List String) {d : Draft} (indexed : Indexed d)
    (nodes : ∀ id ∈ ids, ∃ node ∈ d.nodes.toList, node.id = id) :
    ∃ feeds, Feeding offset ids d (insertAll catalog offset ids d) feeds ∧
      feeds.map (fun feed => (feed.target, feed.port)) = ids.filterMap (target? catalog d) := by
  induction ids generalizing d with
  | nil => exact ⟨[], feeding_nil offset d indexed, rfl⟩
  | cons id ids ih =>
    rw [List.forall_mem_cons] at nodes
    rw [insertAll]
    split
    · next node port found =>
      obtain rfl := target?_eq_some catalog indexed found
      obtain ⟨feed, rfl, rfl, one⟩ := feeding_insert offset indexed node port
      -- The other ids are looked up with the new source there, which is no node of theirs.
      have later : ∀ id ∈ ids,
          ∃ node ∈ (insert offset feed.target.id feed.target feed.port d).draft.nodes.toList,
            node.id = id := by
        intro id mem
        obtain ⟨node, node_mem, eq⟩ := nodes.2 id mem
        exact ⟨node, one.nodes ▸ List.mem_append_left _ node_mem, eq⟩
      have same := List.filterMap_congr fun id mem =>
        one.target?_eq catalog offset indexed (nodes.2 id mem)
      obtain ⟨feeds, others, fed⟩ := ih one.indexed later
      refine ⟨[feed] ++ feeds, one.andThen offset others, ?_⟩
      rw [List.filterMap_cons_some found, ← same, ← fed]
      rfl
    · next none =>
      obtain ⟨feeds, others, fed⟩ := ih indexed nodes.2
      refine ⟨feeds, { others with targets := others.targets.cons id }, ?_⟩
      rw [List.filterMap_cons_none none, fed]

/-- The nodes with a port to feed are found under their own ids. -/
theorem ids_filterMap_target? (ids : List String) {d : Draft} (indexed : Indexed d) :
    (ids.filterMap (target? catalog d)).map (·.1.id) =
      ids.filter fun id => (target? catalog d id).isSome := by
  induction ids with
  | nil => rfl
  | cons id ids ih =>
    cases found : target? catalog d id with
    | none => simp [found, ih]
    | some fed => simp [found, ih, target?_eq_some catalog indexed found]

end

/-- The nodes reported as lacking an input require one, and no edge leads to them. -/
theorem mem_targets_iff {catalog : NodeCatalog} {d : Draft} {id : String} :
    id ∈ targets (Port.Supply.check catalog d) ↔ ∃ node ∈ d.nodes.toList, node.id = id ∧
      Port.Supply.required catalog node.type ≠ [] ∧ indegree d.edges.toList node.id = 0 := by
  simp only [targets, List.mem_filterMap, List.mem_filter, beq_iff_eq]
  constructor
  · intro reported
    obtain ⟨issue, ⟨mem, kind⟩, names⟩ := reported
    obtain ⟨node, node_mem, unfed, port, first, rfl⟩ :=
      (Port.Supply.mem_check_missing_iff kind).mp mem
    exact ⟨node, node_mem, Option.some.inj names,
      List.isSome_head?.mp (Option.isSome_of_eq_some first), unfed⟩
  · intro lacking
    obtain ⟨node, mem, rfl, requires, unfed⟩ := lacking
    obtain ⟨port, first⟩ := Option.isSome_iff_exists.mp (List.isSome_head?.mpr requires)
    exact ⟨_, ⟨(Port.Supply.mem_check_missing_iff rfl).mpr
      ⟨node, mem, unfed, port, first, rfl⟩, rfl⟩, rfl⟩

/-- The nodes reported as lacking an input are nodes of the draft. -/
theorem target_mem_nodes (catalog : NodeCatalog) (d : Draft) :
    ∀ id ∈ targets (Port.Supply.check catalog d), ∃ node ∈ d.nodes.toList, node.id = id := by
  intro id mem
  obtain ⟨node, node_mem, eq, -⟩ := mem_targets_iff.mp mem
  exact ⟨node, node_mem, eq⟩

end Dataflow.Repair.Source
