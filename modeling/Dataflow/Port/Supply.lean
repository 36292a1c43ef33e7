import Dataflow.Catalog
import Dataflow.Draft
import Dataflow.Issue

/-! Whether the required inputs of nodes are fed.

A node without incoming edges lacks its first required input, and only that is
reported. If edges do come in, one of them has to name the port, or to name none;
otherwise the port is reported as ambiguous. `check` looks the incoming edges up by
node; which edges there are is all that counts, and not their order. -/
namespace Dataflow.Port.Supply

/-- The edges by the id of their target, in order. -/
def incoming (edges : List Edge) : Std.TreeMap String (List Edge) :=
  edges.foldr (fun e fed => fed.insert e.target (e :: fed.getD e.target [])) ∅

theorem getD_incoming (edges : List Edge) (id : String) :
    (incoming edges).getD id [] = edges.filter fun e => e.target = id := by
  unfold incoming
  induction edges with
  | nil => simp
  | cons e edges ih =>
    by_cases h : e.target = id <;>
      simp_all [Std.TreeMap.getD_insert, Std.LawfulEqCmp.compare_eq_iff_eq]

/-- Whether an edge to the port's node feeds the port. -/
def feeds (e : Edge) (port : PortDefinition) : Bool :=
  match e.targetHandle with
  | none => true
  | some handle => handle == port.name

def missing (nodeId : String) (port : PortDefinition) : Issue :=
  .ofNode .missingRequiredInput nodeId
    s!"No edge connects to required input '{port.name}' ({port.type})"

def ambiguous (nodeId : String) (port : PortDefinition) : Issue :=
  .ofNode .ambiguousPortConnection nodeId
    s!"Required input '{port.name}' is not explicitly connected; incoming edges target other ports"

/-- The required inputs of a type; an unknown type has none. -/
def required (catalog : NodeCatalog) (type : String) : List PortDefinition :=
  ((catalog.definition type).map NodeDefinition.requiredInputs).getD []

/-- The issues of a node into which the given edges come. -/
def nodeIssues (catalog : NodeCatalog) (node : Node) (edges : List Edge) : List Issue :=
  match required catalog node.type with
  | [] => []
  | port :: ports =>
    if edges.isEmpty then [missing node.id port]
    else ((port :: ports).filter fun p => !edges.any (feeds · p)).map (ambiguous node.id)

/-- The issues of all nodes, in their order. -/
def check (catalog : NodeCatalog) (draft : Draft) : List Issue :=
  let fed := incoming draft.edges.toList
  draft.nodes.toList.flatMap fun node => nodeIssues catalog node (fed.getD node.id [])

end Dataflow.Port.Supply
