import Dataflow.Graph

/-! Graphs in a store of numbered vertices and arcs.

A store numbers the vertices and the arcs that are added to it. A workflow is put into one by
giving each id a vertex when it first occurs: first the ids of the nodes and then, edge by edge,
those that no node carries (`build`). Which arcs leave a vertex the store says in an order of its
own, so the successors of a vertex are put into the order of the arcs (`successors`). -/
namespace Dataflow.Graph

/-- A store of vertices that carry ids, and of arcs between them. -/
structure Store (G : Type) where
  empty : G
  /-- A new vertex: its number, and the store with it. -/
  addVertex : G → String → Nat × G
  addArc : G → Nat → Nat → G
  /-- The ids of the vertices, by their numbers. -/
  ids : G → List String
  /-- The two ends of the arcs, by their numbers. -/
  ends : G → List (Nat × Nat)
  /-- The arcs out of a vertex: the number of each, and the vertex that it leads to. -/
  outgoing : G → Nat → List (Nat × Nat)

/-- The arcs out of a vertex, in the order of their numbers. -/
def arcsFrom (ends : List (Nat × Nat)) (v : Nat) : List (Nat × Nat) :=
  (ends.zipIdx.filter fun arc => arc.1.1 = v).map fun arc => (arc.2, arc.1.2)

namespace Store

variable {G : Type} (store : Store G)

/-- What is asked of a store. -/
structure Lawful : Prop where
  ids_empty : store.ids store.empty = []
  ends_empty : store.ends store.empty = []
  /-- Vertices get the numbers from 0 on, one after the other, -/
  addVertex_fst : ∀ g id, (store.addVertex g id).1 = (store.ids g).length
  ids_addVertex : ∀ g id, store.ids (store.addVertex g id).2 = store.ids g ++ [id]
  ends_addVertex : ∀ g id, store.ends (store.addVertex g id).2 = store.ends g
  /-- and so do arcs between vertices that there are. -/
  ids_addArc : ∀ g u v, u < (store.ids g).length → v < (store.ids g).length →
    store.ids (store.addArc g u v) = store.ids g
  ends_addArc : ∀ g u v, u < (store.ids g).length → v < (store.ids g).length →
    store.ends (store.addArc g u v) = store.ends g ++ [(u, v)]
  /-- Each arc out of a vertex is listed once, at some place. -/
  outgoing_perm : ∀ g v, (store.outgoing g v).Perm (arcsFrom (store.ends g) v)

/-- A store that is being filled, with the number of every id in it. -/
structure Filling (G : Type) where
  graph : G
  numbers : Std.TreeMap String Nat

namespace Filling

def start : Filling G := ⟨store.empty, ∅⟩

/-- The vertex of an id, which is added if there is none. -/
def vertex (f : Filling G) (id : String) : Nat × Filling G :=
  match f.numbers[id]? with
  | some v => (v, f)
  | none =>
    let (v, graph) := store.addVertex f.graph id
    (v, ⟨graph, f.numbers.insert id v⟩)

def addNode (f : Filling G) (node : Node) : Filling G := (f.vertex store node.id).2

def addEdge (f : Filling G) (e : Edge) : Filling G :=
  let (u, f) := f.vertex store e.source
  let (v, f) := f.vertex store e.target
  { f with graph := store.addArc f.graph u v }

end Filling

/-- Nodes and edges, put into the store one after the other. -/
def build (nodes : List Node) (edges : List Edge) : G :=
  (edges.foldl (Filling.addEdge store) (nodes.foldl (Filling.addNode store) (Filling.start store))).graph

def idOf? (g : G) (v : Nat) : Option String := (store.ids g)[v]?

def byNumber (a b : Nat × Nat) : Bool := a.1 ≤ b.1

/-- The vertices that the arcs out of a vertex lead to, in the order of the arcs. -/
def successors (g : G) (v : Nat) : List Nat := ((store.outgoing g v).mergeSort byNumber).map (·.2)

end Store

end Dataflow.Graph
