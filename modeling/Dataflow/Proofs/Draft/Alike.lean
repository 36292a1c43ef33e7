import Dataflow.Draft

/-! Drafts that differ only in how their nodes are placed and configured.

Of a node, everything but its own completion looks at the id and the type (`Node.outline`).
Two drafts are `Alike` if their nodes agree on these and nothing else is different but where the
inserted nodes stand. Alike drafts hand out the same ids, find alike nodes (`Alike.outline_node?`),
and stay alike under every operation. -/
namespace Dataflow

/-- What the checks look at. -/
def Node.outline (n : Node) : String × String := (n.id, n.type)

/-- The node wherever it stands. -/
def Node.unplaced (n : Node) : Node := { n with position := .origin }

theorem Node.unplaced_mk (id type : String) (position : Position) (config : Config) :
    (Node.mk id type position config).unplaced = ⟨id, type, .origin, config⟩ := rfl

theorem Node.outline_eq_iff {n n' : Node} :
    n'.outline = n.outline ↔ n'.id = n.id ∧ n'.type = n.type := Prod.ext_iff

theorem Node.outline_of_unplaced {n n' : Node} (same : n'.unplaced = n.unplaced) :
    n'.outline = n.outline := by
  show n'.unplaced.outline = n.unplaced.outline
  rw [same]

theorem map_id_of_outlines {nodes nodes' : List Node}
    (same : nodes'.map Node.outline = nodes.map Node.outline) :
    nodes'.map (·.id) = nodes.map (·.id) := by
  have ids (nodes : List Node) : nodes.map (·.id) = (nodes.map Node.outline).map (·.1) := by
    rw [List.map_map]
    rfl
  rw [ids, same, ← ids]

/-- What is made of nodes by their outlines is the same for alike ones. -/
theorem flatMap_congr_of_outlines {α : Type} {f : Node → List α}
    (by_outline : ∀ n n' : Node, n'.outline = n.outline → f n' = f n) {nodes nodes' : List Node}
    (same : nodes'.map Node.outline = nodes.map Node.outline) :
    nodes'.flatMap f = nodes.flatMap f := by
  induction nodes generalizing nodes' with
  | nil => rw [List.map_eq_nil_iff.mp same]
  | cons node nodes ih =>
    obtain ⟨node', later, rfl, first, others⟩ := List.map_eq_cons_iff.mp same
    rw [List.flatMap_cons, List.flatMap_cons, by_outline node node' first, ih others]

namespace Draft

/-- Positions apart, and the configuration of nodes that were given, the drafts are the same. -/
structure Alike (d d' : Draft) : Prop where
  nodes : d'.nodes.toList.map Node.outline = d.nodes.toList.map Node.outline
  edges : d'.edges = d.edges
  inserted : d'.inserted.toList.map Node.unplaced = d.inserted.toList.map Node.unplaced
  index : d'.index = d.index
  takenEdgeIds : d'.takenEdgeIds = d.takenEdgeIds
  nextNumber : d'.nextNumber = d.nextNumber

/-- The index is made from the ids. -/
theorem indexFrom_congr {nodes nodes' : List Node} (ids : nodes'.map (·.id) = nodes.map (·.id))
    (start : Nat) (index : Std.TreeMap String Nat) :
    indexFrom start index nodes' = indexFrom start index nodes := by
  induction nodes generalizing nodes' start index with
  | nil => rw [List.map_eq_nil_iff.mp ids]
  | cons node nodes ih =>
    obtain ⟨node', later, rfl, same, ids⟩ := List.map_eq_cons_iff.mp ids
    rw [indexFrom, indexFrom, same, ih ids]

theorem alike_ofLists {nodes nodes' : List Node}
    (same : nodes'.map Node.outline = nodes.map Node.outline) (edges : List Edge) :
    Alike (ofLists nodes edges) (ofLists nodes' edges) where
  nodes := same
  edges := rfl
  inserted := rfl
  index := indexFrom_congr (map_id_of_outlines same) 0 ∅
  takenEdgeIds := rfl
  nextNumber := rfl

namespace Alike

variable {d d' : Draft} (h : Alike d d')
include h

theorem size_nodes : d'.nodes.size = d.nodes.size := by
  simpa using congrArg List.length h.nodes

theorem freshNodeId_eq (type : String) : (d'.freshNodeId type).1 = (d.freshNodeId type).1 := by
  simp only [freshNodeId, counter, h.index, h.nextNumber]

theorem freshNodeId (type : String) : Alike (d.freshNodeId type).2 (d'.freshNodeId type).2 where
  nodes := h.nodes
  edges := h.edges
  inserted := h.inserted
  index := h.index
  takenEdgeIds := h.takenEdgeIds
  nextNumber := by simp only [Draft.freshNodeId, counter, h.index, h.nextNumber]

theorem freshEdgeId_eq : d'.freshEdgeId.1 = d.freshEdgeId.1 := by
  simp only [freshEdgeId, counter, h.takenEdgeIds, h.nextNumber]

theorem freshEdgeId : Alike d.freshEdgeId.2 d'.freshEdgeId.2 where
  nodes := h.nodes
  edges := h.edges
  inserted := h.inserted
  index := h.index
  takenEdgeIds := by simp only [Draft.freshEdgeId, counter, h.takenEdgeIds, h.nextNumber]
  nextNumber := by simp only [Draft.freshEdgeId, counter, h.takenEdgeIds, h.nextNumber]

theorem insertNode {n n' : Node} (same : n'.unplaced = n.unplaced) :
    Alike (d.insertNode n) (d'.insertNode n') where
  nodes := by simp [h.nodes, Node.outline_of_unplaced same]
  edges := h.edges
  inserted := by simp [h.inserted, same]
  index := by
    have id : n'.id = n.id := (Node.outline_eq_iff.mp (Node.outline_of_unplaced same)).1
    simp only [Draft.insertNode, h.index, id, h.size_nodes]
  takenEdgeIds := h.takenEdgeIds
  nextNumber := h.nextNumber

theorem pushEdge (e : Edge) : Alike (d.pushEdge e) (d'.pushEdge e) where
  nodes := h.nodes
  edges := congrArg (·.push e) h.edges
  inserted := h.inserted
  index := h.index
  takenEdgeIds := congrArg (·.insert e.id) h.takenEdgeIds
  nextNumber := h.nextNumber

theorem replaceEdges (edges : List Edge) : Alike (d.replaceEdges edges) (d'.replaceEdges edges) :=
  { h with edges := rfl }

/-- **An id finds alike nodes**, or none in both. -/
theorem outline_node? (id : String) :
    (d'.node? id).map Node.outline = (d.node? id).map Node.outline := by
  have at_position (i : Nat) :
      (d'.nodes[i]?).map Node.outline = (d.nodes[i]?).map Node.outline := by
    rw [← Array.getElem?_toList, ← Array.getElem?_toList, ← List.getElem?_map, h.nodes,
      List.getElem?_map]
  rw [node?, node?, h.index]
  cases d.index[id]? with
  | none => rfl
  | some i => exact at_position i

/-- It finds a node in both, or in none. -/
theorem node?_cases (id : String) : (d.node? id = none ∧ d'.node? id = none) ∨
    ∃ n n', d.node? id = some n ∧ d'.node? id = some n' ∧ n'.outline = n.outline := by
  have same := h.outline_node? id
  cases found : d.node? id with
  | none =>
    rw [found, Option.map_none, Option.map_eq_none_iff] at same
    exact .inl ⟨rfl, same⟩
  | some n =>
    rw [found, Option.map_some, Option.map_eq_some_iff] at same
    obtain ⟨n', found', outline⟩ := same
    exact .inr ⟨n, n', rfl, found', outline⟩

end Alike

end Draft

end Dataflow
