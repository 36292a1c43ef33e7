import Dataflow.Proofs.Cycle.Insertion
import Dataflow.Proofs.Repair.Converter
import Dataflow.Proofs.Repair.Source

/-! Repairs as insertions into the graph.

A source that feeds a node comes before it, and nothing leads to the source
(`Feeding.insertion`); a converter stands on the arc of its edge, and on no other
(`Carried.insertion`). Both are insertions as far as cycles are concerned, if no edge named
an id that a new node was given. -/
namespace Dataflow.Repair

open Dataflow.Graph Dataflow.Graph.Cycle

/-! ### Sources -/

namespace Source

variable {offset : Float} {ids : List String} {d : Draft} {r : Repair} {feeds : List Feed}

theorem arc_feeds {u v : String} :
    Arc (feeds.map (·.edge)) u v ↔ ∃ feed ∈ feeds, feed.sourceId = u ∧ feed.target.id = v := by
  simp [Arc, Feed.edge]

/-- Of the ends of the new edges, the targets are old. -/
theorem old_endpoints_feeds {new : List String} {feeds : List Feed}
    (sources : ∀ feed ∈ feeds, feed.sourceId ∈ new)
    (targets : ∀ feed ∈ feeds, feed.target.id ∉ new) :
    old new (endpoints (feeds.map (·.edge))) = feeds.map (·.target.id) := by
  induction feeds with
  | nil => rfl
  | cons feed feeds ih =>
    rw [List.forall_mem_cons] at sources targets
    rw [List.map_cons, endpoints_cons, Feed.edge, old_cons_of_mem sources.1,
      old_cons_of_not_mem targets.1, ih sources.2 targets.2, List.map_cons]

/-- The nodes that are fed are nodes of the draft. -/
theorem Feeding.target_mem (h : Feeding offset ids d r feeds)
    (nodes : ∀ id ∈ ids, ∃ node ∈ d.nodes.toList, node.id = id) :
    ∀ feed ∈ feeds, feed.target.id ∈ d.nodes.toList.map (·.id) := by
  intro feed mem
  obtain ⟨node, node_mem, eq⟩ := nodes _ (h.targets.subset (List.mem_map_of_mem mem))
  exact List.mem_map.mpr ⟨node, node_mem, eq⟩

/-- The new edges run between nodes. -/
theorem Feeding.ends_mem (h : Feeding offset ids d r feeds)
    (nodes : ∀ id ∈ ids, ∃ node ∈ d.nodes.toList, node.id = id) :
    ∀ id ∈ endpoints (feeds.map (·.edge)), id ∈ r.draft.nodes.toList.map (·.id) := by
  intro id mem
  obtain ⟨e, e_mem, ends⟩ := List.mem_flatMap.mp mem
  obtain ⟨feed, feed_mem, rfl⟩ := List.mem_map.mp e_mem
  rw [h.nodes, List.map_append, ids_sources, List.mem_append]
  simp only [List.mem_cons, List.not_mem_nil, or_false] at ends
  rcases ends with rfl | rfl
  · exact .inr (List.mem_map_of_mem feed_mem)
  · exact .inl (h.target_mem nodes feed feed_mem)

/-- Nothing leads to a source. -/
theorem Feeding.not_arc (h : Feeding offset ids d r feeds)
    (nodes : ∀ id ∈ ids, ∃ node ∈ d.nodes.toList, node.id = id)
    (free : ∀ id ∈ endpoints d.edges.toList, id ∉ feeds.map (·.sourceId)) {u c : String}
    (new : c ∈ feeds.map (·.sourceId)) : ¬ Arc r.draft.edges.toList u c := by
  rw [h.edges, arc_append, arc_feeds]
  intro arc
  rcases arc with arc | ⟨feed, mem, -, rfl⟩
  · exact free c (mem_endpoints_of_arc arc).2 new
  · have apart := h.apart.not_mem _ (h.target_mem nodes feed mem)
    rw [ids_sources] at apart
    exact apart new

/-- A source leads to a node that is fed. -/
theorem Feeding.arc_source (h : Feeding offset ids d r feeds)
    (nodes : ∀ id ∈ ids, ∃ node ∈ d.nodes.toList, node.id = id)
    (free : ∀ id ∈ endpoints d.edges.toList, id ∉ feeds.map (·.sourceId)) {c t : String}
    (new : c ∈ feeds.map (·.sourceId)) (arc : Arc r.draft.edges.toList c t) :
    t ∈ d.nodes.toList.map (·.id) := by
  rw [h.edges, arc_append, arc_feeds] at arc
  rcases arc with arc | ⟨feed, mem, -, rfl⟩
  · exact absurd new (free c (mem_endpoints_of_arc arc).1)
  · exact h.target_mem nodes feed mem

/-- Other vertices have the successors that they had. -/
theorem Feeding.successors_eq (h : Feeding offset ids d r feeds) (nodes nodes' : List Node)
    {u : String} (old_u : u ∉ feeds.map (·.sourceId)) :
    (ofLists nodes' r.draft.edges.toList).successors u =
      (ofLists nodes d.edges.toList).successors u := by
  have none : (feeds.map (·.edge)).filter (fun e => e.source = u) = [] := by
    rw [List.filter_eq_nil_iff]
    intro e mem
    obtain ⟨feed, feed_mem, rfl⟩ := List.mem_map.mp mem
    have ne : feed.sourceId ≠ u := fun eq => old_u (eq ▸ List.mem_map_of_mem feed_mem)
    simp [Feed.edge, ne]
  rw [successors_ofLists, successors_ofLists, h.edges, List.filter_append, none, List.append_nil]

/-- **Feeding nodes inserts sources before them.** -/
theorem Feeding.insertion (h : Feeding offset ids d r feeds)
    (nodes : ∀ id ∈ ids, ∃ node ∈ d.nodes.toList, node.id = id)
    (free : ∀ id ∈ endpoints d.edges.toList, id ∉ feeds.map (·.sourceId)) :
    Insertion d.nodes.toList (feeds.map (·.source offset)) d.edges.toList
      r.draft.edges.toList := by
  have apart := h.apart.not_mem
  have new_ids := ids_sources offset feeds
  exact {
    sub := {
      detours := by
        intro u old_u
        rw [new_ids] at old_u ⊢
        rw [h.successors_eq d.nodes.toList _ old_u]
        exact .refl fun id next => free id (mem_endpoints_of_arc (mem_successors_ofLists.mp next)).2
      own := by
        intro c new u v next
        exact absurd (mem_successors_ofLists.mp next) (h.not_arc nodes free (new_ids ▸ new)) }
    into := fun c new u arc => absurd arc (h.not_arc nodes free (new_ids ▸ new))
    out := fun c new t => h.arc_source nodes free (new_ids ▸ new)
    apart := apart
    ends := by
      rw [new_ids] at apart ⊢
      refine ⟨feeds.map (·.target.id), by simpa using h.target_mem nodes, ?_⟩
      rw [h.edges, endpoints_append, old_append, old_eq_self free]
      congr 1
      exact old_endpoints_feeds (fun feed mem => List.mem_map_of_mem mem)
        fun feed mem => apart _ (h.target_mem nodes feed mem) }

end Source

/-! ### Converters -/

namespace Converter

namespace Carried

variable {plans : List (Edge × Plan)} {edges : List Edge} {detours : List Detour}

/-- An arc that is left was there before, or leads into a converter or out of it. -/
theorem arc (h : Carried plans edges detours) {u v : String} (arc : Arc edges u v) :
    Arc (plans.map (·.1)) u v ∨
      ∃ d ∈ detours, (u = d.edge.source ∧ v = d.nodeId) ∨ (u = d.nodeId ∧ v = d.edge.target) := by
  obtain ⟨e, mem, rfl, rfl⟩ := arc
  rcases h.edge_mem e mem with before | ⟨d, d_mem, rfl | rfl⟩
  · exact .inl ⟨e, before, rfl, rfl⟩
  · exact .inr ⟨d, d_mem, .inl ⟨rfl, rfl⟩⟩
  · exact .inr ⟨d, d_mem, .inr ⟨rfl, rfl⟩⟩

/-- The ends of a detour are those of the edge that it replaces. -/
theorem arc_edge (h : Carried plans edges detours) {d : Detour} (mem : d ∈ detours) :
    Arc (plans.map (·.1)) d.edge.source d.edge.target :=
  ⟨d.edge, List.mem_map_of_mem (h.plan_mem d mem), rfl, rfl⟩

/-- Nothing leaves an id that is neither an end of the edges nor a converter. -/
theorem filter_source_eq_nil (h : Carried plans edges detours) {c : String}
    (free : c ∉ endpoints (plans.map (·.1))) (other : ∀ d ∈ detours, d.nodeId ≠ c) :
    edges.filter (fun e => e.source = c) = [] := by
  rw [List.filter_eq_nil_iff]
  intro e mem source
  rw [decide_eq_true_eq] at source
  rcases h.arc ⟨e, mem, source, rfl⟩ with before | ⟨d, d_mem, ⟨rfl, -⟩ | ⟨rfl, -⟩⟩
  · exact free (mem_endpoints_of_arc before).1
  · exact free (mem_endpoints_of_arc (h.arc_edge d_mem)).1
  · exact other d d_mem rfl

/-- Out of a converter there is the one edge of its detour. -/
theorem filter_source_eq (h : Carried plans edges detours)
    (nodup : (detours.map (·.nodeId)).Nodup)
    (free : ∀ id ∈ endpoints (plans.map (·.1)), id ∉ detours.map (·.nodeId)) :
    ∀ d ∈ detours, edges.filter (fun e => e.source = d.nodeId) = [d.out] := by
  induction h with
  | nil => simp
  | @keep e plan plans edges detours kept rest ih =>
    simp only [List.map_cons, endpoints_cons, List.forall_mem_cons] at free
    intro d mem
    have ne : e.source ≠ d.nodeId := fun eq => free.1 (eq ▸ List.mem_map_of_mem mem)
    rw [List.filter_cons_of_neg (by simpa using ne)]
    exact ih nodup free.2.2 d mem
  | @through plans edges detours one rest ih =>
    simp only [List.map_cons, endpoints_cons, List.forall_mem_cons] at free
    rw [List.map_cons, List.nodup_cons] at nodup
    have apart : ∀ d ∈ detours, d.nodeId ≠ one.nodeId :=
      fun d mem eq => nodup.1 (eq ▸ List.mem_map_of_mem mem)
    have later : ∀ id ∈ endpoints (plans.map (·.1)), id ∉ detours.map (·.nodeId) :=
      fun id mem new => free.2.2 id mem (List.mem_cons_of_mem _ new)
    have into (d : Detour) (mem : d ∈ one :: detours) : one.into.source ≠ d.nodeId :=
      fun eq => free.1 (eq ▸ List.mem_map_of_mem mem)
    rw [List.forall_mem_cons]
    constructor
    · rw [List.filter_cons_of_neg (by simpa using into one (List.mem_cons_self ..)),
        List.filter_cons_of_pos (by simp [Detour.out]),
        rest.filter_source_eq_nil (fun on => free.2.2 _ on (List.mem_cons_self ..)) apart]
    · intro d mem
      have out : one.out.source ≠ d.nodeId := (apart d mem).symm
      rw [List.filter_cons_of_neg (by simpa using into d (List.mem_cons_of_mem _ mem)),
        List.filter_cons_of_neg (by simpa using out)]
      exact ih nodup.2 later d mem

/-- A converter is no target but that of its own edge. -/
theorem nodeId_ne_target (h : Carried plans edges detours) {c : String}
    (free : c ∉ endpoints (plans.map (·.1))) (other : ∀ d ∈ detours, d.nodeId ≠ c) :
    ∀ e ∈ edges, e.target ≠ c := by
  intro e mem target
  rcases h.arc ⟨e, mem, rfl, target⟩ with before | ⟨d, d_mem, ⟨-, rfl⟩ | ⟨-, rfl⟩⟩
  · exact free (mem_endpoints_of_arc before).2
  · exact other d d_mem rfl
  · exact free (mem_endpoints_of_arc (h.arc_edge d_mem)).2

/-- The old targets of a vertex are reached through converters, or as before. -/
theorem detours_successors (h : Carried plans edges detours) {new : List String} {g : Graph}
    (nodup : (detours.map (·.nodeId)).Nodup)
    (free : ∀ id ∈ endpoints (plans.map (·.1)), id ∉ new)
    (on : ∀ d ∈ detours, d.nodeId ∈ new ∧ g.successors d.nodeId = [d.edge.target])
    {u : String} (old_u : u ∉ new) :
    Detours new g (((plans.map (·.1)).filter fun e => e.source = u).map (·.target))
      ((edges.filter fun e => e.source = u).map (·.target)) := by
  induction h with
  | nil => exact .nil
  | @keep e plan plans edges detours kept rest ih =>
    simp only [List.map_cons, endpoints_cons, List.forall_mem_cons] at free
    have others := ih nodup free.2.2 on
    rw [List.map_cons]
    by_cases source : e.source = u
    · rw [List.filter_cons_of_pos (by simpa using source),
        List.filter_cons_of_pos (by simpa using source)]
      exact .cons free.2.1 (.direct e.target) (by simp) others
    · rwa [List.filter_cons_of_neg (by simpa using source),
        List.filter_cons_of_neg (by simpa using source)]
  | @through plans edges detours one rest ih =>
    simp only [List.map_cons, endpoints_cons, List.forall_mem_cons] at free
    rw [List.map_cons, List.nodup_cons] at nodup
    rw [List.forall_mem_cons] at on
    have others := ih nodup.2 free.2.2 on.2
    have out : one.out.source ≠ u := fun eq => old_u (eq ▸ on.1.1)
    rw [List.map_cons]
    by_cases source : one.edge.source = u
    · have into : one.into.source = u := source
      rw [List.filter_cons_of_pos (a := one.edge) (by simpa using source),
        List.filter_cons_of_pos (a := one.into) (by simpa using into),
        List.filter_cons_of_neg (a := one.out) (by simpa using out)]
      refine .cons free.2.1 (.through on.1.1 on.1.2) ?_ others
      intro c only target
      obtain rfl := List.mem_singleton.mp only
      obtain ⟨e, mem, eq⟩ := List.mem_map.mp target
      refine rest.nodeId_ne_target (fun mem => free.2.2 _ mem on.1.1) ?_ e
        (List.mem_filter.mp mem).1 eq
      exact fun d mem eq => nodup.1 (eq ▸ List.mem_map_of_mem mem)
    · have into : one.into.source ≠ u := source
      rwa [List.filter_cons_of_neg (a := one.edge) (by simpa using source),
        List.filter_cons_of_neg (a := one.into) (by simpa using into),
        List.filter_cons_of_neg (a := one.out) (by simpa using out)]

/-- Of the ends of the edges that are left, those of the edges before are old. -/
theorem old_endpoints (h : Carried plans edges detours) {new : List String}
    (free : ∀ id ∈ endpoints (plans.map (·.1)), id ∉ new) (on : ∀ d ∈ detours, d.nodeId ∈ new) :
    old new (endpoints edges) = endpoints (plans.map (·.1)) := by
  induction h with
  | nil => rfl
  | keep kept rest ih =>
    simp only [List.map_cons, endpoints_cons, List.forall_mem_cons] at free ⊢
    rw [old_cons_of_not_mem free.1, old_cons_of_not_mem free.2.1, ih free.2.2 on]
  | through one rest ih =>
    simp only [List.map_cons, endpoints_cons, List.forall_mem_cons, Detour.into,
      Detour.out] at free on ⊢
    rw [old_cons_of_not_mem free.1, old_cons_of_mem on.1, old_cons_of_mem on.1,
      old_cons_of_not_mem free.2.1, ih free.2.2 on.2]

section
variable (h : Carried plans edges detours) (nodup : (detours.map (·.nodeId)).Nodup)
  (free : ∀ id ∈ endpoints (plans.map (·.1)), id ∉ detours.map (·.nodeId))
include h nodup free

/-- Into a converter there are the arcs of its detour only. -/
theorem eq_source_of_arc {d : Detour} (mem : d ∈ detours) {u : String}
    (arc : Arc edges u d.nodeId) : u = d.edge.source := by
  have new : d.nodeId ∈ detours.map (·.nodeId) := List.mem_map_of_mem mem
  rcases h.arc arc with before | ⟨d', mem', ⟨rfl, eq⟩ | ⟨-, eq⟩⟩
  · exact absurd new (free _ (mem_endpoints_of_arc before).2)
  · rw [List.inj_on_of_nodup_map nodup mem mem' eq]
  · exact absurd (eq ▸ new) (free _ (mem_endpoints_of_arc (h.arc_edge mem')).2)

/-- Out of a converter there are the arcs of its detour only. -/
theorem eq_target_of_arc {d : Detour} (mem : d ∈ detours) {t : String}
    (arc : Arc edges d.nodeId t) : t = d.edge.target := by
  have new : d.nodeId ∈ detours.map (·.nodeId) := List.mem_map_of_mem mem
  rcases h.arc arc with before | ⟨d', mem', ⟨eq, -⟩ | ⟨eq, rfl⟩⟩
  · exact absurd new (free _ (mem_endpoints_of_arc before).1)
  · exact absurd (eq ▸ new) (free _ (mem_endpoints_of_arc (h.arc_edge mem')).1)
  · rw [List.inj_on_of_nodup_map nodup mem mem' eq]

end

/-- **Converting edges inserts converters on their arcs.** -/
theorem insertion (h : Carried plans edges detours) {nodes : List Node}
    (apart : Draft.Apart nodes (detours.map (·.node)))
    (ends : ∀ d ∈ detours, d.edge.source ∈ nodes.map (·.id) ∧ d.edge.target ∈ nodes.map (·.id))
    (free : ∀ id ∈ endpoints (plans.map (·.1)), id ∉ detours.map (·.nodeId)) :
    Insertion nodes (detours.map (·.node)) (plans.map (·.1)) edges := by
  have new_ids := ids_converters detours
  have nodup := apart.nodup
  rw [new_ids] at nodup
  have new_mem {id : String} (mem : id ∈ (detours.map (·.node)).map (·.id)) :
      ∃ d ∈ detours, d.nodeId = id := List.mem_map.mp (new_ids ▸ mem)
  exact {
    sub := {
      detours := by
        intro u old_u
        rw [new_ids] at old_u ⊢
        rw [successors_ofLists nodes, successors_ofLists (nodes ++ _) edges]
        refine h.detours_successors nodup free (fun d mem => ⟨List.mem_map_of_mem mem, ?_⟩) old_u
        rw [successors_ofLists, h.filter_source_eq nodup free d mem]
        rfl
      own := by
        intro c new u v next next'
        obtain ⟨d, mem, rfl⟩ := new_mem new
        rw [h.eq_source_of_arc nodup free mem (mem_successors_ofLists.mp next),
          h.eq_source_of_arc nodup free mem (mem_successors_ofLists.mp next')] }
    into := by
      intro c new u arc
      obtain ⟨d, mem, rfl⟩ := new_mem new
      rw [h.eq_source_of_arc nodup free mem arc]
      exact (ends d mem).1
    out := by
      intro c new t arc
      obtain ⟨d, mem, rfl⟩ := new_mem new
      rw [h.eq_target_of_arc nodup free mem arc]
      exact (ends d mem).2
    apart := apart.not_mem
    ends := by
      refine ⟨[], by simp, ?_⟩
      rw [new_ids, List.append_nil]
      exact h.old_endpoints free fun d mem => List.mem_map_of_mem mem }

end Carried

end Converter

end Dataflow.Repair
