import Dataflow.Workflow
import Std.Data.TreeMap
import Std.Data.TreeSet

/-! A workflow that is being repaired.

A draft finds the first node that carries an id, remembers the nodes that were
inserted, and hands out ids that nothing carries: `auto-<type>-<n>` for nodes and
`auto-edge-<n>` for edges, with the least free number from a counter on that is
kept for each label. Nodes of type `edge` and edges share a counter. -/
namespace Dataflow

structure Draft where
  nodes : Array Node
  edges : Array Edge
  /-- The inserted nodes, in order. -/
  inserted : Array Node
  /-- The position of the first node that carries an id. -/
  index : Std.TreeMap String Nat
  /-- The ids that new edges keep clear of. -/
  takenEdgeIds : Std.TreeSet String
  /-- The number to try next for each label. -/
  nextNumber : Std.TreeMap String Nat

namespace Draft

/-- The positions of some nodes, of which the first one is at `start`. -/
def indexFrom (start : Nat) (index : Std.TreeMap String Nat) : List Node → Std.TreeMap String Nat
  | [] => index
  | node :: nodes => indexFrom (start + 1) (index.insertIfNew node.id start) nodes

def ofLists (nodes : List Node) (edges : List Edge) : Draft where
  nodes := nodes.toArray
  edges := edges.toArray
  inserted := #[]
  index := indexFrom 0 ∅ nodes
  takenEdgeIds := edges.foldl (fun taken e => taken.insert e.id) ∅
  nextNumber := ∅

def empty : Draft := ofLists [] []

/-- The first node that carries the id. -/
def node? (d : Draft) (id : String) : Option Node :=
  match d.index[id]? with
  | some i => d.nodes[i]?
  | none => none

/-- Adds a node, and remembers it as inserted. -/
def insertNode (d : Draft) (node : Node) : Draft :=
  { d with
    nodes := d.nodes.push node
    inserted := d.inserted.push node
    index := d.index.insertIfNew node.id d.nodes.size }

def pushEdge (d : Draft) (edge : Edge) : Draft :=
  { d with edges := d.edges.push edge, takenEdgeIds := d.takenEdgeIds.insert edge.id }

/-- Puts other edges in place of all edges. Ids that were taken stay taken. -/
def replaceEdges (d : Draft) (edges : List Edge) : Draft := { d with edges := edges.toArray }

/-- A label with a number. -/
def numbered (label : String) (n : Nat) : String := s!"{label}-{n}"

/-- The least number from `n` on whose id is not taken, tried at most `fuel` times. -/
def firstFree (taken : String → Bool) (label : String) : Nat → Nat → Nat
  | 0, n => n
  | fuel + 1, n => if taken (numbered label n) then firstFree taken label fuel (n + 1) else n

/-- The number to try first for a label. -/
def counter (d : Draft) (label : String) : Nat := d.nextNumber.getD label 1

def nodeLabel (type : String) : String := s!"auto-{type}"

def edgeLabel : String := "auto-edge"

/-- An id that no node carries and that was not handed out before. -/
def freshNodeId (d : Draft) (type : String) : String × Draft :=
  let label := nodeLabel type
  let n := firstFree d.index.contains label (d.index.size + 1) (d.counter label)
  (numbered label n, { d with nextNumber := d.nextNumber.insert label (n + 1) })

/-- An id that is not taken by an edge; it is taken from now on. -/
def freshEdgeId (d : Draft) : String × Draft :=
  let n :=
    firstFree d.takenEdgeIds.contains edgeLabel (d.takenEdgeIds.size + 1) (d.counter edgeLabel)
  let id := numbered edgeLabel n
  (id, { d with
    takenEdgeIds := d.takenEdgeIds.insert id
    nextNumber := d.nextNumber.insert edgeLabel (n + 1) })

section
variable (d : Draft)

@[simp] theorem nodes_insertNode (node : Node) :
    (d.insertNode node).nodes = d.nodes.push node := rfl

@[simp] theorem edges_insertNode (node : Node) : (d.insertNode node).edges = d.edges := rfl

@[simp] theorem inserted_insertNode (node : Node) :
    (d.insertNode node).inserted = d.inserted.push node := rfl

@[simp] theorem nodes_pushEdge (edge : Edge) : (d.pushEdge edge).nodes = d.nodes := rfl

@[simp] theorem edges_pushEdge (edge : Edge) : (d.pushEdge edge).edges = d.edges.push edge := rfl

@[simp] theorem inserted_pushEdge (edge : Edge) : (d.pushEdge edge).inserted = d.inserted := rfl

@[simp] theorem nodes_freshNodeId (type : String) : (d.freshNodeId type).2.nodes = d.nodes := rfl

@[simp] theorem edges_freshNodeId (type : String) : (d.freshNodeId type).2.edges = d.edges := rfl

@[simp] theorem nodes_freshEdgeId : d.freshEdgeId.2.nodes = d.nodes := rfl

@[simp] theorem edges_freshEdgeId : d.freshEdgeId.2.edges = d.edges := rfl

end

theorem le_firstFree (taken : String → Bool) (label : String) (fuel n : Nat) :
    n ≤ firstFree taken label fuel n := by
  fun_induction firstFree taken label fuel n with
  | case1 n => exact Nat.le_refl n
  | case2 fuel n _ ih => exact Nat.le_of_succ_le ih
  | case3 fuel n _ => exact Nat.le_refl n

/-- The numbers that the search goes past are taken. -/
theorem taken_of_lt_firstFree {taken : String → Bool} {label : String} {fuel n m : Nat}
    (from_n : n ≤ m) (before : m < firstFree taken label fuel n) :
    taken (numbered label m) = true := by
  fun_induction firstFree taken label fuel n with
  | case1 n => omega
  | case2 fuel n h ih =>
    by_cases eq : n = m
    · exact eq ▸ h
    · exact ih (by omega) before
  | case3 fuel n _ => omega

example : (ofLists [] [⟨"auto-edge-1", "a", "b", none, none⟩]).freshEdgeId.1 = "auto-edge-2" := by
  decide

end Draft

end Dataflow
