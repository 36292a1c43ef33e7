import Dataflow.Workflow
import Std.Data.TreeMap
import Std.Data.TreeSet

/-! The graph of a workflow: ids, and arcs from source to target.

Every id that a node carries or an edge names is a vertex, so a loop through a node
that does not exist is a loop all the same. -/
namespace Dataflow

structure Graph where
  /-- The ids, each of them once. -/
  vertices : List String
  arcs : Std.TreeMap String (List String)
  arcCount : Nat

namespace Graph

/-- The first occurrences of what is not yet seen. -/
def distinctFrom (seen : Std.TreeSet String) : List String → List String
  | [] => []
  | id :: ids =>
    if id ∈ seen then distinctFrom seen ids else id :: distinctFrom (seen.insert id) ids

/-- The first occurrences, in order. -/
def distinct (ids : List String) : List String := distinctFrom ∅ ids

/-- The vertices are the ids of the nodes, and then those that only edges name. -/
def ofLists (nodes : List Node) (edges : List Edge) : Graph where
  vertices := distinct (nodes.map (·.id) ++ edges.flatMap fun e => [e.source, e.target])
  arcs := edges.foldr (fun e arcs => arcs.insert e.source (e.target :: arcs.getD e.source [])) ∅
  arcCount := edges.length

/-- The targets of the edges from a vertex, in their order and as often as they occur. -/
def successors (g : Graph) (id : String) : List String := g.arcs.getD id []

/-- The successors are read off the edges. -/
theorem successors_ofLists (nodes : List Node) (edges : List Edge) (id : String) :
    (ofLists nodes edges).successors id =
      (edges.filter fun e => e.source = id).map (·.target) := by
  simp only [successors, ofLists]
  induction edges with
  | nil => simp
  | cons e edges ih =>
    by_cases h : e.source = id <;>
      simp_all [Std.TreeMap.getD_insert, Std.LawfulEqCmp.compare_eq_iff_eq]

end Graph

end Dataflow
