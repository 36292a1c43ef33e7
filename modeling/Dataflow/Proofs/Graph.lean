import Dataflow.Graph
import Mathlib.Algebra.BigOperators.Group.List.Basic
import Mathlib.Algebra.GroupWithZero.Nat
import Mathlib.Data.List.Nodup
import Mathlib.Logic.Relation

/-! The vertices of a graph, and its arcs as a relation.

`Arc edges` relates the source of every edge to its target; the successors of a graph
are its arcs (`mem_successors_ofLists`). The vertices are all ids that occur, each of
them once, so that counting the successors of all vertices counts every edge once
(`sum_length_successors`). `outdegree` and `indegree` count the edges at one id. -/
namespace Dataflow

/-- Some edge goes from `u` to `v`. -/
def Arc (edges : List Edge) (u v : String) : Prop := ∃ e ∈ edges, e.source = u ∧ e.target = v

theorem arc_append {a b : List Edge} {u v : String} :
    Arc (a ++ b) u v ↔ Arc a u v ∨ Arc b u v := by
  simp only [Arc, List.mem_append, or_and_right, exists_or]

namespace Graph

/-! ### First occurrences -/

/-- First occurrences are what is left without duplicates. -/
theorem distinctFrom_eq (seen : Std.TreeSet String) (ids : List String) :
    distinctFrom seen ids = (ids.filter (· ∉ seen)).eraseDups := by
  fun_induction distinctFrom seen ids with
  | case1 seen => rfl
  | case2 seen a ids known ih => rw [List.filter_cons_of_neg (by simpa using known), ih]
  | case3 seen a ids new ih =>
    have later : (ids.filter (· ∉ seen)).filter (fun b => !b == a) =
        ids.filter (· ∉ seen.insert a) := by
      rw [List.filter_filter]
      refine List.filter_congr fun b _ => ?_
      by_cases same : b = a
      · simp [same]
      · simp [same, Ne.symm same, Std.TreeSet.mem_insert, Std.LawfulEqCmp.compare_eq_iff_eq]
    rw [List.filter_cons_of_pos (by simpa using new), List.eraseDups_cons, later, ih]

theorem distinct_eq_eraseDups (ids : List String) : distinct ids = ids.eraseDups := by
  simp [distinct, distinctFrom_eq]

theorem mem_distinctFrom {seen : Std.TreeSet String} {ids : List String} {id : String} :
    id ∈ distinctFrom seen ids ↔ id ∈ ids ∧ id ∉ seen := by
  simp [distinctFrom_eq]

theorem nodup_distinctFrom (seen : Std.TreeSet String) (ids : List String) :
    (distinctFrom seen ids).Nodup := by
  fun_induction distinctFrom seen ids with
  | case1 seen => exact .nil
  | case2 seen a ids known ih => exact ih
  | case3 seen a ids fresh ih =>
    rw [List.nodup_cons, mem_distinctFrom]
    exact ⟨by simp, ih⟩

theorem mem_distinct {ids : List String} {id : String} : id ∈ distinct ids ↔ id ∈ ids := by
  simp [distinct, mem_distinctFrom]

theorem nodup_distinct (ids : List String) : (distinct ids).Nodup := nodup_distinctFrom ∅ ids

/-! ### Vertices and arcs -/

section
variable {nodes : List Node} {edges : List Edge}

theorem nodup_vertices : (ofLists nodes edges).vertices.Nodup := nodup_distinct _

/-- The ids that edges name. -/
def endpoints (edges : List Edge) : List String := edges.flatMap fun e => [e.source, e.target]

theorem endpoints_cons (e : Edge) (edges : List Edge) :
    endpoints (e :: edges) = e.source :: e.target :: endpoints edges := rfl

theorem endpoints_append (a b : List Edge) :
    endpoints (a ++ b) = endpoints a ++ endpoints b := List.flatMap_append

theorem vertices_ofLists :
    (ofLists nodes edges).vertices = distinct (nodes.map (·.id) ++ endpoints edges) := rfl

/-- Of nodes, a graph has the ids only. -/
theorem ofLists_congr {nodes' : List Node} (ids : nodes'.map (·.id) = nodes.map (·.id)) :
    ofLists nodes' edges = ofLists nodes edges := by
  rw [ofLists, ids]
  rfl

theorem source_mem_endpoints {e : Edge} (h : e ∈ edges) : e.source ∈ endpoints edges :=
  List.mem_flatMap.mpr ⟨e, h, by simp⟩

theorem target_mem_endpoints {e : Edge} (h : e ∈ edges) : e.target ∈ endpoints edges :=
  List.mem_flatMap.mpr ⟨e, h, by simp⟩

/-- Both ends of an arc are named by an edge. -/
theorem mem_endpoints_of_arc {u v : String} (h : Arc edges u v) :
    u ∈ endpoints edges ∧ v ∈ endpoints edges := by
  obtain ⟨e, mem, rfl, rfl⟩ := h
  exact ⟨source_mem_endpoints mem, target_mem_endpoints mem⟩

theorem mem_vertices_of_mem_endpoints {id : String} (h : id ∈ endpoints edges) :
    id ∈ (ofLists nodes edges).vertices := by
  rw [vertices_ofLists, mem_distinct]
  exact List.mem_append_right _ h

theorem mem_successors_ofLists {u v : String} :
    v ∈ (ofLists nodes edges).successors u ↔ Arc edges u v := by
  simp [successors_ofLists, Arc, and_assoc]

/-- Both ends of an arc are vertices. -/
theorem mem_vertices_of_arc {u v : String} (h : Arc edges u v) :
    u ∈ (ofLists nodes edges).vertices ∧ v ∈ (ofLists nodes edges).vertices := by
  have ends := mem_endpoints_of_arc h
  exact ⟨mem_vertices_of_mem_endpoints ends.1, mem_vertices_of_mem_endpoints ends.2⟩

theorem sum_indicator {ids : List String} {a : String} (nodup : ids.Nodup) (mem : a ∈ ids) :
    (ids.map fun id => if a = id then 1 else 0).sum = 1 := by
  obtain ⟨before, after, rfl⟩ := List.append_of_mem mem
  rw [List.nodup_middle, List.nodup_cons, List.mem_append, not_or] at nodup
  have none {ids : List String} (h : a ∉ ids) :
      (ids.map fun id => if a = id then 1 else 0).sum = 0 := by
    apply List.sum_eq_zero
    intro n image
    obtain ⟨id, mem, rfl⟩ := List.mem_map.mp image
    have ne : a ≠ id := fun eq => h (eq ▸ mem)
    exact if_neg ne
  simp [none nodup.1.1, none nodup.1.2]

/-- Each edge is counted once, at its source. -/
theorem sum_count_sources {ids : List String} (nodup : ids.Nodup)
    (sources : ∀ e ∈ edges, e.source ∈ ids) :
    (ids.map fun id => (edges.filter fun e => e.source = id).length).sum = edges.length := by
  induction edges with
  | nil => simp
  | cons e edges ih =>
    simp only [List.forall_mem_cons] at sources
    have head (id : String) : ((e :: edges).filter fun e => e.source = id).length =
        (if e.source = id then 1 else 0) + (edges.filter fun e => e.source = id).length := by
      by_cases h : e.source = id <;> simp [h, Nat.add_comm]
    simp only [head, List.sum_map_add, ih sources.2, List.length_cons]
    rw [sum_indicator nodup sources.1, Nat.add_comm]

theorem sum_length_successors :
    ((ofLists nodes edges).vertices.map fun id =>
      ((ofLists nodes edges).successors id).length).sum = (ofLists nodes edges).arcCount := by
  simp only [successors_ofLists, List.length_map]
  exact sum_count_sources nodup_vertices fun e mem =>
    mem_vertices_of_mem_endpoints (source_mem_endpoints mem)

end

end Graph

/-! ### Degrees -/

/-- How many edges leave an id. -/
def outdegree (edges : List Edge) (id : String) : Nat := (edges.map (·.source)).count id

/-- How many edges lead to an id. -/
def indegree (edges : List Edge) (id : String) : Nat := (edges.map (·.target)).count id

section
variable {edges : List Edge} {id : String}

theorem outdegree_append (a b : List Edge) (id : String) :
    outdegree (a ++ b) id = outdegree a id + outdegree b id := by
  simp [outdegree]

theorem indegree_append (a b : List Edge) (id : String) :
    indegree (a ++ b) id = indegree a id + indegree b id := by
  simp [indegree]

theorem outdegree_eq_zero (off : id ∉ Graph.endpoints edges) : outdegree edges id = 0 := by
  rw [outdegree, List.count_eq_zero]
  intro mem
  obtain ⟨e, e_mem, rfl⟩ := List.mem_map.mp mem
  exact off (Graph.source_mem_endpoints e_mem)

theorem indegree_eq_zero_iff :
    indegree edges id = 0 ↔ (edges.filter fun e => e.target = id) = [] := by
  simp [indegree, List.count_eq_zero]

theorem indegree_ne_zero_of_arc {u : String} (arc : Arc edges u id) : indegree edges id ≠ 0 := by
  obtain ⟨e, mem, -, rfl⟩ := arc
  rw [indegree, ne_eq, List.count_eq_zero, not_not]
  exact List.mem_map_of_mem mem

theorem indegree_eq_zero (off : id ∉ Graph.endpoints edges) : indegree edges id = 0 := by
  rw [indegree, List.count_eq_zero]
  intro mem
  obtain ⟨e, e_mem, rfl⟩ := List.mem_map.mp mem
  exact off (Graph.target_mem_endpoints e_mem)

end

end Dataflow
