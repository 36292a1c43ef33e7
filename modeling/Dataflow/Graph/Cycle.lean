import Dataflow.Draft
import Dataflow.Graph
import Dataflow.Issue

/-! Cycles of a graph, by depth-first search.

The search starts from the vertices in order. `path` holds the vertices it is in
the middle of, `frames` their successors that are still to be looked at, innermost
first. An arc to a vertex on the path closes a cycle, which is noted from that
vertex on, unless it was noted before. The search is a machine that makes one move
at a time (`step`), and `moves` bounds their number. -/
namespace Dataflow.Graph.Cycle

/-- A vertex is on the path, at a depth, or done with. -/
inductive Mark where
  | active (depth : Nat)
  | done
deriving DecidableEq, Repr

/-- A vertex on the path, with the successors to be looked at. -/
structure Frame where
  vertex : String
  pending : List String

structure Search where
  /-- The vertices to start from. -/
  roots : List String
  marks : Std.TreeMap String Mark
  frames : List Frame
  path : Array String
  found : Array (List String)

namespace Search

def start (g : Graph) : Search := ⟨g.vertices, ∅, [], #[], #[]⟩

/-- Goes on to a vertex that was not visited before. -/
def enter (g : Graph) (s : Search) (id : String) : Search :=
  { s with
    marks := s.marks.insert id (.active s.path.size)
    frames := ⟨id, g.successors id⟩ :: s.frames
    path := s.path.push id }

/-- Leaves the vertex at the end of the path. -/
def leave (s : Search) (id : String) (outer : List Frame) : Search :=
  { s with marks := s.marks.insert id .done, frames := outer, path := s.path.pop }

/-- The path from a depth on, back to the vertex there. -/
def cycleAt (s : Search) (depth : Nat) (id : String) : List String :=
  s.path.toList.drop depth ++ [id]

def note (s : Search) (cycle : List String) : Search :=
  if cycle ∈ s.found then s else { s with found := s.found.push cycle }

/-- Looks at an arc from the end of the path. -/
def follow (g : Graph) (s : Search) (id : String) : Search :=
  match s.marks[id]? with
  | none => s.enter g id
  | some (.active depth) => s.note (s.cycleAt depth id)
  | some .done => s

/-- One move, or none when all vertices are done. -/
def step (g : Graph) (s : Search) : Option Search :=
  match s.frames with
  | ⟨id, []⟩ :: outer => some (s.leave id outer)
  | ⟨id, next :: pending⟩ :: outer =>
    some ({ s with frames := ⟨id, pending⟩ :: outer }.follow g next)
  | [] =>
    match s.roots with
    | [] => none
    | id :: roots =>
      let s := { s with roots }
      some (if s.marks.contains id then s else s.enter g id)

/-- At most `n` moves. -/
def run (g : Graph) : Nat → Search → Search
  | 0, s => s
  | n + 1, s =>
    match s.step g with
    | none => s
    | some s => run g n s

/-- Every vertex is started from and left once, and every arc is looked at once. -/
def moves (g : Graph) : Nat := 2 * g.vertices.length + g.arcCount

end Search

/-- The cycles found, each from the vertex where it closes back to that vertex. -/
def paths (g : Graph) : List (List String) :=
  ((Search.start g).run g (Search.moves g)).found.toList

/-- The graph of a draft. -/
def ofDraft (draft : Draft) : Graph := .ofLists draft.nodes.toList draft.edges.toList

/-- The issues of the cycles of a draft. -/
def check (draft : Draft) : List Issue := (paths (ofDraft draft)).map .ofCycle

/-- The same, where the search is left out if a test does not find the graph cyclic. -/
def checkIf (cyclic : Graph → Bool) (draft : Draft) : List Issue :=
  if cyclic (ofDraft draft) then check draft else []

end Dataflow.Graph.Cycle
