import Dataflow.Config.Defaults
import Dataflow.Port.Ends
import Dataflow.Repair

/-! Converters on edges whose port types need one.

Which edges are converted, through which node type and where the node stands is
settled for all edges before the first node is inserted (`Plan`). Then each of them
is replaced, in its place, by an edge into a new converter and one out of it
(`convert`). -/
namespace Dataflow.Repair.Converter

inductive Plan where
  | keep
  /-- The edge was reported, but its ends need no converter. -/
  | notNeeded
  | through (type : String) (position : Position)

/-- The ids of the edges reported as convertible. -/
def reported (issues : List Issue) : Std.TreeSet String :=
  ((issues.filter fun i => i.kind == .convertibleTypeMismatch).filterMap (·.edgeId)).foldl
    (fun ids id => ids.insert id) ∅

/-- A converter goes halfway between the two nodes. -/
def Plan.ofEdge (catalog : NodeCatalog) (draft : Draft) (ids : Std.TreeSet String) (e : Edge) :
    Plan :=
  if ids.contains e.id then
    match (Port.Ends.ofEdge catalog draft e).converter? with
    | some type =>
      match draft.node? e.source, draft.node? e.target with
      | some source, some target => through type (source.position.midpoint target.position)
      | _, _ => keep
    | .none => notNeeded
  else keep

/-- What the log says of a plan. -/
def Plan.events (e : Edge) : Plan → List Event
  | notNeeded => [.converterNotNeeded e.id]
  | _ => []

/-- The edges after a conversion, and its reports. -/
structure Converted where
  edges : List Edge
  repair : Repair

def inserted (nodeId type : String) (e : Edge) : Issue :=
  let between := s!"between '{e.source}' and '{e.target}' (replaces edge '{e.id}')"
  .ofNode .repairApplied nodeId (s!"Inserted '{type}' converter " ++ between)

/-- Inserts a converter and gives the two edges that take the edge's place. -/
def insert (e : Edge) (type : String) (position : Position) (draft : Draft) : Converted :=
  let (nodeId, draft) := draft.freshNodeId type
  let (intoId, draft) := draft.freshEdgeId
  let (outId, draft) := draft.freshEdgeId
  { edges := [⟨intoId, e.source, nodeId, e.sourceHandle, .none⟩,
      ⟨outId, nodeId, e.target, .none, e.targetHandle⟩]
    repair := {
      draft := draft.insertNode ⟨nodeId, type, position, Defaults.config type⟩
      issues := [inserted nodeId type e]
      events := [.insertedConverter nodeId type e.id] } }

/-- Carries out the plan of one edge. -/
def convertEdge (e : Edge) (plan : Plan) (draft : Draft) : Converted :=
  match plan with
  | .through type position => insert e type position draft
  | _ => ⟨[e], .none draft⟩

/-- Carries out the plans of the edges in order. -/
def convert : List (Edge × Plan) → Draft → Converted
  | [], draft => ⟨[], .none draft⟩
  | (e, plan) :: plans, draft =>
    let one := convertEdge e plan draft
    let others := convert plans one.repair.draft
    ⟨one.edges ++ others.edges, one.repair.andThen fun _ => others.repair⟩

/-- Converts the reported edges that need it. -/
def repair (catalog : NodeCatalog) (issues : List Issue) (draft : Draft) : Repair :=
  let ids := reported issues
  let plans := draft.edges.toList.map fun e => (e, Plan.ofEdge catalog draft ids e)
  let converted := convert plans draft
  { draft := converted.repair.draft.replaceEdges converted.edges
    issues := converted.repair.issues
    events := plans.flatMap (fun p => p.2.events p.1) ++ converted.repair.events }

end Dataflow.Repair.Converter
