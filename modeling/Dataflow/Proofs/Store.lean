import Dataflow.Graph.Store
import Dataflow.Proofs.Graph

/-! What a graph in a store comes to.

While a store is filled, its vertices carry the ids that have occurred so far, in the order of their
first occurrence, and its arcs have the edges' ends (`Numbers`). Each vertex that is asked for
keeps that, and so does each edge; so in the end the vertices are those of the graph that is
searched for cycles. Sorting the arcs out of a vertex by their numbers makes up for whatever order
they are listed in (`sorted_outgoing`), so that its successors are read off the edges
(`build_reads`). -/
namespace Dataflow.Graph

/-! ### First occurrences -/

theorem distinct_append (a b : List String) :
    distinct (a ++ b) = a.eraseDups ++ (b.filter (· ∉ a)).eraseDups := by
  rw [distinct_eq_eraseDups, List.eraseDups_append, List.removeAll]
  simp

theorem distinct_concat_of_mem {ids : List String} {id : String} (known : id ∈ ids) :
    distinct (ids ++ [id]) = distinct ids := by
  rw [distinct_append, distinct_eq_eraseDups]
  simp [known]

theorem distinct_concat_of_not_mem {ids : List String} {id : String} (new : id ∉ ids) :
    distinct (ids ++ [id]) = distinct ids ++ [id] := by
  rw [distinct_append, distinct_eq_eraseDups]
  simp [new, List.eraseDups_cons]

/-- What stands at a place of a list that one more was added to. -/
theorem getElem?_concat_eq_some_iff {ids : List String} {id a : String} {v : Nat} :
    (ids ++ [id])[v]? = some a ↔ ids[v]? = some a ∨ v = ids.length ∧ id = a := by
  rw [List.getElem?_append]
  split
  · next lt => simp [Nat.ne_of_lt lt]
  · next ge =>
    rw [List.getElem?_singleton, List.getElem?_eq_none (Nat.not_lt.mp ge)]
    by_cases last : v = ids.length
    · simp [last]
    · have past : v - ids.length ≠ 0 := by omega
      simp [last, past]

/-- Once an id has occurred it keeps its place. -/
theorem getElem?_distinct_concat {ids : List String} {v : Nat} {a : String}
    (at_v : (distinct ids)[v]? = some a) (id : String) : (distinct (ids ++ [id]))[v]? = some a := by
  by_cases known : id ∈ ids
  · rw [distinct_concat_of_mem known, at_v]
  · rw [distinct_concat_of_not_mem known, getElem?_concat_eq_some_iff]
    exact .inl at_v

/-! ### Arcs out of a vertex -/

theorem pairwise_arcsFrom (ends : List (Nat × Nat)) (v : Nat) :
    (arcsFrom ends v).Pairwise fun a b => a.1 < b.1 := by
  have numbers : (ends.zipIdx.map (·.2)).Pairwise (· < ·) := by
    rw [List.zipIdx_map_snd]
    exact List.pairwise_lt_range'
  rw [arcsFrom, List.pairwise_map]
  exact (List.pairwise_map.mp numbers).filter _

theorem map_arcsFrom (ends : List (Nat × Nat)) (v : Nat) :
    (arcsFrom ends v).map (·.2) = (ends.filter fun a => a.1 = v).map (·.2) := by
  have first : ends = ends.zipIdx.map (·.1) := (List.zipIdx_map_fst 0 ends).symm
  conv_rhs => rw [first]
  simp only [arcsFrom, List.filter_map, List.map_map]
  rfl

namespace Store

variable {G : Type} {store : Store G}

/-- Arcs sorted by their numbers do not show in which order they were listed. -/
theorem sorted_outgoing (lawful : store.Lawful) (g : G) (v : Nat) :
    (store.outgoing g v).mergeSort byNumber = arcsFrom (store.ends g) v := by
  have perm := (List.mergeSort_perm (store.outgoing g v) byNumber).trans (lawful.outgoing_perm g v)
  have ascending := pairwise_arcsFrom (store.ends g) v
  have le_iff (a b : Nat × Nat) : byNumber a b = true ↔ a.1 ≤ b.1 := decide_eq_true_iff
  have sorted : ((store.outgoing g v).mergeSort byNumber).Pairwise (byNumber · ·) := by
    apply List.pairwise_mergeSort
    · simp only [le_iff]
      exact fun a b c => Nat.le_trans
    · simp only [Bool.or_eq_true, le_iff]
      exact fun a b => Nat.le_total a.1 b.1
  have sorted' : (arcsFrom (store.ends g) v).Pairwise (byNumber · ·) :=
    ascending.imp fun lt => (le_iff _ _).mpr (Nat.le_of_lt lt)
  refine perm.eq_of_pairwise (fun a b a_mem b_mem le ge => ?_) sorted sorted'
  -- No number is given twice, so two arcs with one number are the same.
  have distinct : ((arcsFrom (store.ends g) v).map (·.1)).Nodup :=
    (List.pairwise_map.mpr ascending).imp Nat.ne_of_lt
  have same : a.1 = b.1 := Nat.le_antisymm ((le_iff a b).mp le) ((le_iff b a).mp ge)
  exact List.inj_on_of_nodup_map distinct (perm.mem_iff.mp a_mem) b_mem same

theorem successors_eq (lawful : store.Lawful) (g : G) (v : Nat) :
    store.successors g v = ((store.ends g).filter fun a => a.1 = v).map (·.2) := by
  rw [successors, sorted_outgoing lawful, map_arcsFrom]

/-! ### Filling a store -/

/-- The vertices of a store carry the ids, and its arcs have the ends of the edges. -/
structure Numbers (store : Store G) (f : Filling G) (ids : List String) (edges : List Edge) :
    Prop where
  vertices : store.ids f.graph = ids
  numbers : ∀ (id : String) (v : Nat), f.numbers[id]? = some v ↔ ids[v]? = some id
  arcs : List.Forall₂ (fun a e => ids[a.1]? = some e.source ∧ ids[a.2]? = some e.target)
    (store.ends f.graph) edges

namespace Numbers

variable {f : Filling G} {seen : List String} {edges : List Edge}

theorem start (lawful : store.Lawful) : Numbers store (Filling.start store) [] [] where
  vertices := lawful.ids_empty
  numbers id v := by simp [Filling.start]
  arcs := by
    rw [Filling.start, lawful.ends_empty]
    exact .nil

/-- The vertex of an id carries the id; it is a new one if the id has not occurred before. -/
theorem vertex (lawful : store.Lawful) (h : Numbers store f (distinct seen) edges) (id : String) :
    Numbers store (f.vertex store id).2 (distinct (seen ++ [id])) edges ∧
      (distinct (seen ++ [id]))[(f.vertex store id).1]? = some id := by
  cases found : f.numbers[id]? with
  | some v =>
    have at_v := (h.numbers id v).mp found
    have known : id ∈ seen := mem_distinct.mp (List.mem_of_getElem? at_v)
    simp only [Filling.vertex, found, distinct_concat_of_mem known]
    exact ⟨h, at_v⟩
  | none =>
    have off (v : Nat) : (distinct seen)[v]? ≠ some id := by
      rw [ne_eq, ← h.numbers, found]
      simp
    have new : id ∉ seen := by
      rw [← mem_distinct, List.mem_iff_getElem?, not_exists]
      exact off
    have number : (store.addVertex f.graph id).1 = (distinct seen).length := by
      rw [lawful.addVertex_fst, h.vertices]
    simp only [Filling.vertex, found, distinct_concat_of_not_mem new]
    refine ⟨⟨?_, fun a v => ?_, ?_⟩, ?_⟩
    · rw [lawful.ids_addVertex, h.vertices]
    · rw [Std.TreeMap.getElem?_insert, getElem?_concat_eq_some_iff, ← h.numbers, number]
      simp only [Std.LawfulEqCmp.compare_eq_iff_eq]
      by_cases same : id = a
      · subst same
        simp [found, eq_comm]
      · simp [same]
    · rw [lawful.ends_addVertex, ← distinct_concat_of_not_mem new]
      exact h.arcs.imp fun a e at_ends =>
        ⟨getElem?_distinct_concat at_ends.1 id, getElem?_distinct_concat at_ends.2 id⟩
    · rw [number, List.getElem?_concat_length]

theorem addNode (lawful : store.Lawful) (h : Numbers store f (distinct seen) edges) (node : Node) :
    Numbers store (f.addNode store node) (distinct (seen ++ [node.id])) edges :=
  (h.vertex lawful node.id).1

theorem addEdge (lawful : store.Lawful) (h : Numbers store f (distinct seen) edges) (e : Edge) :
    Numbers store (f.addEdge store e) (distinct (seen ++ [e.source] ++ [e.target]))
      (edges ++ [e]) := by
  obtain ⟨from_source, at_source⟩ := h.vertex lawful e.source
  obtain ⟨to_target, at_target⟩ := from_source.vertex lawful e.target
  replace at_source := getElem?_distinct_concat at_source e.target
  have source_lt := (List.getElem?_eq_some_iff.mp at_source).1
  have target_lt := (List.getElem?_eq_some_iff.mp at_target).1
  rw [← to_target.vertices] at source_lt target_lt
  exact {
    vertices := (lawful.ids_addArc _ _ _ source_lt target_lt).trans to_target.vertices
    numbers := to_target.numbers
    arcs := by
      rw [Filling.addEdge, lawful.ends_addArc _ _ _ source_lt target_lt]
      exact List.rel_append to_target.arcs (.cons ⟨at_source, at_target⟩ .nil) }

theorem addNodes (lawful : store.Lawful) (h : Numbers store f (distinct seen) edges)
    (nodes : List Node) : Numbers store (nodes.foldl (Filling.addNode store) f)
      (distinct (seen ++ nodes.map (·.id))) edges := by
  induction nodes generalizing f seen with
  | nil => simpa using h
  | cons node nodes ih => simpa using ih (h.addNode lawful node)

theorem addEdges (lawful : store.Lawful) (h : Numbers store f (distinct seen) edges)
    (more : List Edge) : Numbers store (more.foldl (Filling.addEdge store) f)
      (distinct (seen ++ endpoints more)) (edges ++ more) := by
  induction more generalizing f seen edges with
  | nil => simpa [endpoints] using h
  | cons e more ih => simpa [endpoints_cons] using ih (h.addEdge lawful e)

/-- The arcs from a vertex lead where the edges from its id do. -/
theorem targets_eq {ids : List String} {ends : List (Nat × Nat)}
    (arcs : List.Forall₂ (fun a e => ids[a.1]? = some e.source ∧ ids[a.2]? = some e.target)
      ends edges) (nodup : ids.Nodup) {v : Nat} {id : String} (at_v : ids[v]? = some id) :
    ((ends.filter fun a => a.1 = v).map (·.2)).map (ids[·]?) =
      (edges.filter fun e => e.source = id).map fun e => some e.target := by
  induction arcs with
  | nil => rfl
  | @cons a e ends edges at_ends _ ih =>
    -- No other vertex carries the id.
    have same : a.1 = v ↔ e.source = id := by
      have here := (List.getElem?_eq_some_iff.mp at_ends.1).1
      rw [← List.getElem?_inj here nodup, at_ends.1, at_v, Option.some_inj]
    rw [List.filter_cons, List.filter_cons]
    simp only [same]
    split
    · rw [List.map_cons, List.map_cons, List.map_cons, ih, at_ends.2]
    · exact ih

end Numbers

/-- What a store holds of some nodes and edges, told by the lists. -/
structure Reads (store : Store G) (g : G) (nodes : List Node) (edges : List Edge) : Prop where
  nodup : (store.ids g).Nodup
  /-- The ids of the nodes come first, and then those that only edges name; each in the order in
  which it first occurs. -/
  ids : store.ids g = (nodes.map (·.id)).eraseDups ++
    ((endpoints edges).filter (· ∉ nodes.map (·.id))).eraseDups
  arcs : (store.ends g).length = edges.length
  /-- The successors of a vertex are the targets of the edges from its id, one for each edge. -/
  successors : ∀ v id, store.idOf? g v = some id → (store.successors g v).map (store.idOf? g) =
    (edges.filter fun e => e.source = id).map fun e => some e.target

/-- **A store holds what the lists say**, whatever order it lists arcs in; and it is the graph that
is searched for cycles. -/
theorem build_reads (lawful : store.Lawful) (nodes : List Node) (edges : List Edge) :
    let g := store.build nodes edges
    let graph := ofLists nodes edges
    store.Reads g nodes edges ∧
      graph.vertices = store.ids g ∧ graph.arcCount = (store.ends g).length ∧
      ∀ v id, store.idOf? g v = some id →
        (store.successors g v).map (store.idOf? g) = (graph.successors id).map some := by
  intro g graph
  have numbers : Numbers store _ (distinct ([] ++ nodes.map (·.id) ++ endpoints edges))
      ([] ++ edges) := ((Numbers.start lawful).addNodes lawful nodes).addEdges lawful edges
  rw [List.nil_append, List.nil_append] at numbers
  have ids : store.ids g = distinct (nodes.map (·.id) ++ endpoints edges) := numbers.vertices
  have nodup : (store.ids g).Nodup := ids ▸ nodup_distinct _
  have arcs : (store.ends g).length = edges.length := numbers.arcs.length_eq
  have successors (v : Nat) (id : String) (at_v : store.idOf? g v = some id) :
      (store.successors g v).map (store.idOf? g) =
        (edges.filter fun e => e.source = id).map fun e => some e.target := by
    rw [successors_eq lawful]
    exact Numbers.targets_eq (ids ▸ numbers.arcs) nodup at_v
  refine ⟨⟨nodup, ids.trans (distinct_append _ _), arcs, successors⟩, ids.symm, arcs.symm, ?_⟩
  intro v id at_v
  rw [successors v id at_v, successors_ofLists, List.map_map]
  rfl

/-- A store that lists the arcs out of a vertex newest first. -/
def newestFirst : Store (List String × List (Nat × Nat)) where
  empty := ([], [])
  addVertex g id := (g.1.length, g.1 ++ [id], g.2)
  addArc g u v := (g.1, g.2 ++ [(u, v)])
  ids g := g.1
  ends g := g.2
  outgoing g v := (arcsFrom g.2 v).reverse

theorem lawful_newestFirst : newestFirst.Lawful where
  ids_empty := rfl
  ends_empty := rfl
  addVertex_fst _ _ := rfl
  ids_addVertex _ _ := rfl
  ends_addVertex _ _ := rfl
  ids_addArc _ _ _ _ _ := rfl
  ends_addArc _ _ _ _ _ := rfl
  outgoing_perm _ _ := List.reverse_perm _

/-- Of two nodes `a` the first makes the vertex, and `ghost` comes behind them. The arcs of `a`, a
loop and two alike among them, are put back into the order of the edges. -/
theorem build_reads_newestFirst :
    let node (id : String) : Node := ⟨id, "viewer", .origin, []⟩
    let edge (id source target : String) : Edge := ⟨id, source, target, none, none⟩
    let g := newestFirst.build [node "a", node "a", node "b"] [edge "e" "ghost" "a",
      edge "f" "a" "b", edge "g" "a" "a", edge "h" "a" "b", edge "i" "a" "ghost"]
    newestFirst.Lawful ∧ newestFirst.ids g = ["a", "b", "ghost"] ∧
      newestFirst.outgoing g 0 = [(4, 2), (3, 1), (2, 0), (1, 1)] ∧
      newestFirst.idOf? g 0 = some "a" ∧
      (newestFirst.successors g 0).map (newestFirst.idOf? g) =
        [some "b", some "a", some "b", some "ghost"] := by
  intro node edge g
  obtain ⟨reads, -, -, -⟩ := build_reads lawful_newestFirst [node "a", node "a", node "b"]
    [edge "e" "ghost" "a", edge "f" "a" "b", edge "g" "a" "a", edge "h" "a" "b",
      edge "i" "a" "ghost"]
  have ids : newestFirst.ids g = ["a", "b", "ghost"] := reads.ids
  have first : newestFirst.idOf? g 0 = some "a" := by rw [idOf?, ids]; rfl
  exact ⟨lawful_newestFirst, ids, by decide +kernel, first, reads.successors 0 "a" first⟩

end Store

end Dataflow.Graph
