import Dataflow.Config.Defaults
import Dataflow.Port.Supply
import Dataflow.Repair

/-! Source nodes for inputs that nothing feeds.

A node that lacks its required input gets a source of a type that fits the port, to
the left of it, and an edge from the source to the port. -/
namespace Dataflow.Repair.Source

/-- The node types that feed a port type. -/
def table : List (String × String) := [
  ("file-ref[]", "folder-source"),
  ("file-ref", "file-source"),
  ("text", "file-source"),
  ("json", "structured-file-loader")]

/-- The node type that feeds an input of the given port type. -/
def nodeType (portType : String) : String := (table.lookup portType).getD "file-source"

/-- The node that is to be fed, and the port of it. -/
def target? (catalog : NodeCatalog) (draft : Draft) (id : String) :
    Option (Node × PortDefinition) := do
  let node ← draft.node? id
  let port ← (Port.Supply.required catalog node.type).head?
  pure (node, port)

def inserted (nodeId type port target : String) : Issue :=
  .ofNode .repairApplied nodeId
    s!"Inserted '{type}' node to feed required input '{port}' of '{target}'"

/-- Inserts a source for a port of the node with the given id. -/
def insert (offset : Float) (id : String) (node : Node) (port : PortDefinition) (draft : Draft) :
    Repair :=
  let type := nodeType port.type
  let (sourceId, draft) := draft.freshNodeId type
  let (edgeId, draft) := draft.freshEdgeId
  let source : Node :=
    ⟨sourceId, type, ⟨node.position.x - offset, node.position.y⟩, Defaults.config type⟩
  let edge : Edge := ⟨edgeId, sourceId, id, .none, some port.name⟩
  { draft := (draft.pushEdge edge).insertNode source
    issues := [inserted sourceId type port.name id]
    events := [.insertedSource sourceId type id] }

/-- Feeds the nodes of the given ids, one after the other. -/
def insertAll (catalog : NodeCatalog) (offset : Float) : List String → Draft → Repair
  | [], draft => .none draft
  | id :: ids, draft =>
    match target? catalog draft id with
    | some (node, port) =>
      (insert offset id node port draft).andThen (insertAll catalog offset ids)
    | .none => insertAll catalog offset ids draft

/-- The nodes reported as lacking an input. -/
def targets (issues : List Issue) : List String :=
  (issues.filter fun i => i.kind == .missingRequiredInput).filterMap (·.nodeId)

/-- Inserts a source for each report of a missing input. -/
def repair (catalog : NodeCatalog) (offset : Float) (issues : List Issue) : Draft → Repair :=
  insertAll catalog offset (targets issues)

example : nodeType "json" = "structured-file-loader" := by decide
example : nodeType "image" = "file-source" := by decide

end Dataflow.Repair.Source
