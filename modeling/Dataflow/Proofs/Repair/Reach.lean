import Dataflow.Proofs.Cycle.Reach
import Dataflow.Proofs.Repair.Cycles

/-! What leads where in a repaired workflow.

A source has one edge, out of it; a converter has one edge into it and one out of it
(`outdegree_converted` and `indegree_converted` count the edges at every id). Between other
ids there are paths just where there were paths before, and no cycle keeps to inserted nodes
(`reach_of_repair`). -/
namespace Dataflow

open Dataflow.Graph Dataflow.Graph.Cycle

namespace Repair

theorem Source.outdegree_feeds (feeds : List Source.Feed) (id : String) :
    outdegree (feeds.map (·.edge)) id = (feeds.map (·.sourceId)).count id := by
  simp [outdegree, Source.Feed.edge, Function.comp_def]

theorem Source.indegree_feeds (feeds : List Source.Feed) (id : String) :
    indegree (feeds.map (·.edge)) id = (feeds.map (·.target.id)).count id := by
  simp [indegree, Source.Feed.edge, Function.comp_def]

namespace Converter.Carried

variable {plans : List (Edge × Plan)} {edges : List Edge} {detours : List Detour}

/-- At the one end or at the other, the two edges of each detour have the end of its edge and the
converter. -/
theorem perm_ends (h : Carried plans edges detours) {ends : Edge → String}
    (pair : ∀ d : Detour, [ends d.into, ends d.out].Perm [ends d.edge, d.nodeId]) :
    (edges.map ends).Perm ((plans.map (·.1)).map ends ++ detours.map (·.nodeId)) := by
  induction h with
  | nil => exact .nil
  | keep _ _ ih => exact ih.cons _
  | through d _ ih =>
    refine ((pair d).append ih).trans ?_
    simp only [List.cons_append, List.nil_append, List.map_cons]
    exact List.perm_middle.symm.cons _

/-- Each detour leaves the source of its edge as that did, and its converter besides. -/
theorem outdegree_eq (h : Carried plans edges detours) (id : String) : outdegree edges id =
    outdegree (plans.map (·.1)) id + (detours.map (·.nodeId)).count id := by
  rw [outdegree, (h.perm_ends fun d => .refl _).count_eq, List.count_append, outdegree]

/-- Each detour leads to the target of its edge as that did, and to its converter besides. -/
theorem indegree_eq (h : Carried plans edges detours) (id : String) : indegree edges id =
    indegree (plans.map (·.1)) id + (detours.map (·.nodeId)).count id := by
  rw [indegree, (h.perm_ends fun d => .swap _ _ []).count_eq, List.count_append, indegree]

end Converter.Carried

end Repair

namespace Stages.Repairs

variable {catalog : NodeCatalog} {offset : Float} {d : Draft} {s : Stages}
  {feeds : List Repair.Source.Feed} {detours : List Repair.Converter.Detour}

/-- The ids of all inserted nodes are different. -/
theorem nodup_new (repairs : Repairs catalog offset d s feeds detours) :
    (feeds.map (·.sourceId) ++ detours.map (·.nodeId)).Nodup := by
  have apart := repairs.converting.apart
  rw [repairs.feeding.nodes] at apart
  have nodup := (repairs.feeding.apart.append apart).nodup
  rwa [List.map_append, Repair.Source.ids_sources, Repair.Converter.ids_converters] at nodup

/-- The nodes that are fed are none of the inserted ones. -/
theorem target_not_mem_new (repairs : Repairs catalog offset d s feeds detours) {id : String}
    (mem : id ∈ feeds.map (·.target.id)) :
    id ∉ feeds.map (·.sourceId) ++ detours.map (·.nodeId) := by
  have targets := repairs.inputs ▸ Repair.Source.target_mem_nodes catalog d
  obtain ⟨feed, feed_mem, rfl⟩ := List.mem_map.mp mem
  have node := repairs.feeding.target_mem targets feed feed_mem
  have before := repairs.feeding.apart.not_mem _ node
  have after := repairs.converting.apart.not_mem feed.target.id (by
    rw [repairs.feeding.nodes, List.map_append]
    exact List.mem_append_left _ node)
  rw [Repair.Source.ids_sources] at before
  rw [Repair.Converter.ids_converters] at after
  exact List.not_mem_append before after

/-- The edges that leave an id are those from before, and one for each time that it is
inserted. -/
theorem outdegree_converted (repairs : Repairs catalog offset d s feeds detours) (id : String) :
    outdegree s.converted.draft.edges.toList id = outdegree d.edges.toList id +
      (feeds.map (·.sourceId) ++ detours.map (·.nodeId)).count id := by
  rw [repairs.converting.carried.outdegree_eq, Repair.Converter.edges_plans,
    repairs.feeding.edges, outdegree_append, Repair.Source.outdegree_feeds, List.count_append,
    Nat.add_assoc]

/-- The edges that lead to an id are those from before, and one for each time that it is
fed or inserted as a converter. -/
theorem indegree_converted (repairs : Repairs catalog offset d s feeds detours) (id : String) :
    indegree s.converted.draft.edges.toList id = indegree d.edges.toList id +
      (feeds.map (·.target.id)).count id + (detours.map (·.nodeId)).count id := by
  rw [repairs.converting.carried.indegree_eq, Repair.Converter.edges_plans,
    repairs.feeding.edges, indegree_append, Repair.Source.indegree_feeds]

section
variable (repairs : Repairs catalog offset d s feeds detours)
  (free : ∀ id ∈ endpoints d.edges.toList,
    id ∉ feeds.map (·.sourceId) ++ detours.map (·.nodeId))
include repairs free

/-- Inserted ids were not on any edge, so that they have their own edges only. -/
theorem degrees_new {id : String} (new : id ∈ feeds.map (·.sourceId) ++ detours.map (·.nodeId)) :
    outdegree s.converted.draft.edges.toList id = 1 ∧
      indegree s.converted.draft.edges.toList id = (detours.map (·.nodeId)).count id := by
  have off : id ∉ endpoints d.edges.toList := fun mem => free id mem new
  have unfed : (feeds.map (·.target.id)).count id = 0 :=
    List.count_eq_zero.mpr fun mem => repairs.target_not_mem_new mem new
  rw [repairs.outdegree_converted, repairs.indegree_converted, outdegree_eq_zero off,
    indegree_eq_zero off, unfed, List.count_eq_one_of_mem repairs.nodup_new new]
  exact ⟨rfl, Nat.zero_add _⟩

theorem degrees_source {id : String} (mem : id ∈ feeds.map (·.sourceId)) :
    outdegree s.converted.draft.edges.toList id = 1 ∧
      indegree s.converted.draft.edges.toList id = 0 := by
  have others : id ∉ detours.map (·.nodeId) := (List.nodup_append'.mp repairs.nodup_new).2.2 mem
  obtain ⟨out, into⟩ := repairs.degrees_new free (List.mem_append_left _ mem)
  exact ⟨out, into.trans (List.count_eq_zero.mpr others)⟩

theorem degrees_converter {id : String} (mem : id ∈ detours.map (·.nodeId)) :
    outdegree s.converted.draft.edges.toList id = 1 ∧
      indegree s.converted.draft.edges.toList id = 1 := by
  have nodup : (detours.map (·.nodeId)).Nodup := repairs.nodup_new.of_append_right
  obtain ⟨out, into⟩ := repairs.degrees_new free (List.mem_append_right _ mem)
  exact ⟨out, into.trans (List.count_eq_one_of_mem nodup mem)⟩

/-- An inserted vertex to which an arc leads is a converter. -/
theorem mem_converters_of_arc {u v : String} (arc : Arc s.converted.draft.edges.toList u v)
    (new : v ∈ feeds.map (·.sourceId) ++ detours.map (·.nodeId)) : v ∈ detours.map (·.nodeId) := by
  refine (List.mem_append.mp new).resolve_left fun source => ?_
  exact indegree_ne_zero_of_arc arc (repairs.degrees_source free source).2

/-- Of two arcs in a row, the second has an old end: sources are not led to, and from one
converter no arc leads to another. -/
theorem old_of_arcs {u a b : String} (into : Arc s.converted.draft.edges.toList u a)
    (out : Arc s.converted.draft.edges.toList a b) :
    a ∉ feeds.map (·.sourceId) ++ detours.map (·.nodeId) ∨
      b ∉ feeds.map (·.sourceId) ++ detours.map (·.nodeId) := by
  have insertion := repairs.insertion_converters fun id mem new =>
    free id mem (List.mem_append_right _ new)
  have new_ids := Repair.Converter.ids_converters detours
  refine or_iff_not_imp_left.mpr fun new_a new_b => ?_
  have a_converter := repairs.mem_converters_of_arc free into (not_not.mp new_a)
  have b_converter := repairs.mem_converters_of_arc free out new_b
  exact insertion.apart b (insertion.out a (new_ids ▸ a_converter) b out) (new_ids ▸ b_converter)

/-- Every closed walk comes to an old vertex. -/
theorem exists_old_of_closed {walk : List String} (two_le : 2 ≤ walk.length)
    (closed : walk.head? = walk.getLast?)
    (along : walk.IsChain (Arc s.converted.draft.edges.toList)) :
    ∃ id ∈ walk, id ∉ feeds.map (·.sourceId) ++ detours.map (·.nodeId) := by
  obtain ⟨u, a, b, into, out, a_mem, b_mem⟩ := exists_passed two_le closed along
  rcases repairs.old_of_arcs free into out with old_a | old_b
  · exact ⟨a, a_mem, old_a⟩
  · exact ⟨b, b_mem, old_b⟩

/-- Between old vertices there are the paths that there were. -/
theorem transGen_iff {u v : String} (old_u : u ∉ feeds.map (·.sourceId) ++ detours.map (·.nodeId))
    (old_v : v ∉ feeds.map (·.sourceId) ++ detours.map (·.nodeId)) :
    Relation.TransGen (Arc s.converted.draft.edges.toList) u v ↔
      Relation.TransGen (Arc d.edges.toList) u v := by
  have fed := repairs.insertion_sources fun id mem new => free id mem (List.mem_append_left _ new)
  have converted := repairs.insertion_converters fun id mem new =>
    free id mem (List.mem_append_right _ new)
  rw [List.mem_append, not_or, ← Repair.Source.ids_sources offset,
    ← Repair.Converter.ids_converters] at old_u old_v
  rw [converted.transGen_iff old_u.2 old_v.2, fed.transGen_iff old_u.1 old_v.1]

theorem cyclic_iff : Cyclic (Arc s.converted.draft.edges.toList) ↔ Cyclic (Arc d.edges.toList) := by
  have fed := repairs.insertion_sources fun id mem new => free id mem (List.mem_append_left _ new)
  have converted := repairs.insertion_converters fun id mem new =>
    free id mem (List.mem_append_right _ new)
  rw [converted.cyclic_iff, fed.cyclic_iff]

end

end Stages.Repairs

/-- **Repair keeps what is reachable.** Between ids that were not inserted there are paths
just where there were paths before. An inserted source is the end of one edge, out of it, and
an inserted converter of one edge into it and one out of it. Every closed walk comes to an id
that was not inserted; so repair neither makes a cycle nor breaks one. Only, no edge may name
the id of a node that is inserted. -/
theorem reach_of_repair (catalog : NodeCatalog) (nodes : List Node) (edges : List Edge)
    (offset : Float)
    (free : ∀ id ∈ endpoints edges,
      id ∉ (validate catalog ⟨true, offset⟩ nodes edges).insertedNodes.map (·.id)) :
    let stages := Stages.run catalog ⟨true, offset⟩ nodes edges
    let repaired := validate catalog ⟨true, offset⟩ nodes edges
    let new := repaired.insertedNodes.map (·.id)
    (∀ u v, u ∉ new → v ∉ new →
      (Relation.TransGen (Arc repaired.fixedEdges) u v ↔ Relation.TransGen (Arc edges) u v)) ∧
    repaired.insertedNodes = stages.sources ++ stages.converters ∧
    (∀ source ∈ stages.sources, indegree repaired.fixedEdges source.id = 0 ∧
      outdegree repaired.fixedEdges source.id = 1) ∧
    (∀ converter ∈ stages.converters, indegree repaired.fixedEdges converter.id = 1 ∧
      outdegree repaired.fixedEdges converter.id = 1) ∧
    (∀ walk : List String, 2 ≤ walk.length → walk.head? = walk.getLast? →
      walk.IsChain (Arc repaired.fixedEdges) → ∃ id ∈ walk, id ∉ new) ∧
    (Cyclic (Arc repaired.fixedEdges) ↔ Cyclic (Arc edges)) := by
  obtain ⟨feeds, detours, repairs⟩ := Stages.exists_repairs catalog nodes edges offset
  intro stages repaired new
  have sources : stages.sources = feeds.map (·.source offset) := repairs.sources_eq rfl
  have converters : stages.converters = detours.map (·.node) := repairs.converters_eq
  have inserted : repaired.insertedNodes = stages.sources ++ stages.converters :=
    repairs.insertedNodes_eq
  have new_eq : new = feeds.map (·.sourceId) ++ detours.map (·.nodeId) := by
    rw [← Repair.Source.ids_sources offset, ← Repair.Converter.ids_converters, ← sources,
      ← converters, ← List.map_append, ← inserted]
  replace free : ∀ id ∈ endpoints edges, id ∉ feeds.map (·.sourceId) ++ detours.map (·.nodeId) :=
    new_eq ▸ free
  refine ⟨?_, inserted, ?_, ?_, ?_, repairs.cyclic_iff free⟩
  · intro u v old_u old_v
    exact repairs.transGen_iff free (new_eq ▸ old_u) (new_eq ▸ old_v)
  · rw [sources, List.forall_mem_map]
    exact fun feed mem => (repairs.degrees_source free (List.mem_map_of_mem mem)).symm
  · rw [converters, List.forall_mem_map]
    exact fun detour mem => (repairs.degrees_converter free (List.mem_map_of_mem mem)).symm
  · intro walk two_le closed along
    rw [new_eq]
    exact repairs.exists_old_of_closed free two_le closed along

/-- On a loop that is led through a converter, beside a source whose own edge needs one. -/
theorem reach_of_repair_loop :
    let port (type : String) (required : Bool) : PortDefinition := ⟨"port", type, required⟩
    let catalog : Catalog := ⟨[⟨"step", ⟨[port "text" false], [port "json" false]⟩, []⟩,
      ⟨"sink", ⟨[port "text" true], []⟩, []⟩, ⟨"file-source", ⟨[], [port "json" false]⟩, []⟩],
      by decide⟩
    let nodes : List Node := [⟨"a", "step", .origin, []⟩, ⟨"b", "sink", .origin, []⟩]
    let edges : List Edge := [⟨"loop", "a", "a", none, none⟩]
    let repaired := validate catalog ⟨true, 250⟩ nodes edges
    let new := repaired.insertedNodes.map (·.id)
    new = ["auto-file-source-1", "auto-stringify-1", "auto-stringify-2"] ∧
      (∀ id ∈ endpoints edges, id ∉ new) ∧
      Relation.TransGen (Arc repaired.fixedEdges) "a" "a" ∧
      ¬ Relation.TransGen (Arc repaired.fixedEdges) "b" "a" := by
  intro port catalog nodes edges repaired new
  have inserted : new = ["auto-file-source-1", "auto-stringify-1", "auto-stringify-2"] := by
    decide +kernel
  have free : ∀ id ∈ endpoints edges, id ∉ new := by
    rw [inserted]
    decide
  have old_a : "a" ∉ new := by rw [inserted]; decide
  have old_b : "b" ∉ new := by rw [inserted]; decide
  have paths := (reach_of_repair catalog nodes edges 250 free).1
  have loop : Arc edges "a" "a" := ⟨_, List.mem_cons_self .., rfl, rfl⟩
  refine ⟨inserted, free, (paths "a" "a" old_a old_a).mpr (.single loop), ?_⟩
  rw [paths "b" "a" old_b old_a]
  intro path
  obtain ⟨_, arc, -⟩ := Relation.TransGen.head'_iff.mp path
  obtain ⟨e, mem, source, -⟩ := arc
  obtain rfl : e = ⟨"loop", "a", "a", none, none⟩ := by simpa [edges] using mem
  exact absurd source (by decide)

end Dataflow
