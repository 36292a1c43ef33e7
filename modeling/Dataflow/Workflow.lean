import Dataflow.Config
import Dataflow.Json.Record

/-! Workflows: nodes, edges between them, and how they are saved.

Every node should have an id of its own, and every edge should name nodes that
exist; neither is required of a saved workflow, and both are looked into by
validation. -/
namespace Dataflow

open Json (Codec Field Fields)

/-- A place on the editor's canvas. -/
structure Position where
  x : Float
  y : Float

namespace Position

def origin : Position := ⟨0, 0⟩

/-- The point halfway, coordinate by coordinate. -/
def midpoint (a b : Position) : Position := ⟨(a.x + b.x) / 2, (a.y + b.y) / 2⟩

def codec : Codec Position :=
  (Codec.record "Position"
    (.cons (.required "x" .number) (.cons (.required "y" .number) .nil))).imap
    (fun (x, y, ()) => ⟨x, y⟩) (fun p => (p.x, p.y, ()))

end Position

structure Node where
  id : String
  type : String
  position : Position
  config : Config

namespace Node

def codec : Codec Node :=
  (Codec.record "Node"
    (.cons (.required "id" .string)
    (.cons (.required "type" .string)
    (.cons (.withDefault "position" Position.codec .origin)
    (.cons (.withDefault "config" Config.codec [])
    .nil))))).imap
    (fun (id, type, position, config, ()) => ⟨id, type, position, config⟩)
    (fun n => (n.id, n.type, n.position, n.config, ()))

end Node

/-- A connection from an output port to an input port. A handle names the port;
without one the first port is meant. -/
structure Edge where
  id : String
  source : String
  target : String
  sourceHandle : Option String
  targetHandle : Option String
deriving DecidableEq, Repr

namespace Edge

def isSelfLoop (e : Edge) : Bool := e.source == e.target

def codec : Codec Edge :=
  (Codec.record "Edge"
    (.cons (.required "id" .string)
    (.cons (.required "source" .string)
    (.cons (.required "target" .string)
    (.cons (.optional "sourceHandle" .string)
    (.cons (.optional "targetHandle" .string)
    .nil)))))).imap
    (fun (id, source, target, sourceHandle, targetHandle, ()) =>
      ⟨id, source, target, sourceHandle, targetHandle⟩)
    (fun e => (e.id, e.source, e.target, e.sourceHandle, e.targetHandle, ()))

end Edge

structure Workflow where
  nodes : List Node
  edges : List Edge

namespace Workflow

def codec : Codec Workflow :=
  (Codec.record "Workflow"
    (.cons (.withDefault "nodes" Node.codec.list [])
    (.cons (.withDefault "edges" Edge.codec.list [])
    .nil))).imap
    (fun (nodes, edges, ()) => ⟨nodes, edges⟩) (fun w => (w.nodes, w.edges, ()))

end Workflow

end Dataflow
