import Dataflow.Config.Completion
import Dataflow.Graph.Cycle
import Dataflow.Repair.Converter
import Dataflow.Repair.Source

/-! Validation of a workflow against a catalog, with repair on request.

The stages run one after the other and none stops the next: configuration, required
inputs, ports, cycles. A repair follows its stage directly, and only if that stage
reported something it can clear, so cycles are looked for in the repaired workflow.
`Stages.run` gives all that happened, `validate` the result of it. -/
namespace Dataflow

open Json (Codec Field Fields)

structure Options where
  /-- Whether to repair what can be repaired. -/
  autoFix : Bool
  /-- How far to the left of its target a source node is put. -/
  sourceOffsetX : Float

namespace Options

def default : Options := ⟨false, 250⟩

def codec : Codec Options :=
  (Codec.record "ValidateOptions"
    (.cons (.withDefault "autoFix" .bool default.autoFix)
    (.cons (.withDefault "sourceOffsetX" .number default.sourceOffsetX)
    .nil))).imap
    (fun (autoFix, sourceOffsetX, ()) => ⟨autoFix, sourceOffsetX⟩)
    (fun o => (o.autoFix, o.sourceOffsetX, ()))

end Options

/-- What validation found. The workflow is valid when no issue is blocking. -/
structure Result where
  valid : Bool
  issues : List Issue
  fixedNodes : List Node
  fixedEdges : List Edge
  insertedNodes : List Node

namespace Result

def ofSeverity (r : Result) (severity : Severity) : List Issue :=
  r.issues.filter fun i => i.severity == severity

def blocking (r : Result) : List Issue := r.issues.filter Issue.isBlocking

def ofKind (r : Result) (kind : IssueKind) : List Issue := r.issues.filter fun i => i.kind == kind

/-- The repaired workflow. -/
def workflow (r : Result) : Workflow := ⟨r.fixedNodes, r.fixedEdges⟩

def codec : Codec Result :=
  (Codec.record "ValidationResult"
    (.cons (.required "valid" .bool)
    (.cons (.required "issues" Issue.codec.list)
    (.cons (.required "fixedNodes" Node.codec.list)
    (.cons (.required "fixedEdges" Edge.codec.list)
    (.cons (.required "insertedNodes" Node.codec.list)
    .nil)))))).imap
    (fun (valid, issues, nodes, edges, inserted, ()) => ⟨valid, issues, nodes, edges, inserted⟩)
    (fun r => (r.valid, r.issues, r.fixedNodes, r.fixedEdges, r.insertedNodes, ()))

end Result

/-- What the stages of a run come to, in order. -/
structure Stages where
  completed : Completion
  inputs : List Issue
  /-- The draft once nodes without a required input are fed. -/
  fed : Repair
  ports : List Issue
  /-- The draft once edges are converted. -/
  converted : Repair
  cycles : List Issue

namespace Stages

/-- A repair, if it is asked for and the stage reported something it can clear. -/
def repairIf (wanted : Bool) (kind : IssueKind) (issues : List Issue) (draft : Draft)
    (repair : Draft → Repair) : Repair :=
  if wanted && issues.any (fun i => i.kind == kind) then repair draft else .none draft

def run (catalog : NodeCatalog) (options : Options) (nodes : List Node) (edges : List Edge) :
    Stages :=
  let completed := Completion.ofNodes catalog nodes
  let draft := Draft.ofLists completed.nodes edges
  let inputs := Port.Supply.check catalog draft
  let fed := repairIf options.autoFix .missingRequiredInput inputs draft
    (Repair.Source.repair catalog options.sourceOffsetX inputs)
  let ports := Port.Ends.check catalog fed.draft
  let converted := repairIf options.autoFix .convertibleTypeMismatch ports fed.draft
    (Repair.Converter.repair catalog ports)
  { completed, inputs, fed, ports, converted, cycles := Graph.Cycle.check converted.draft }

/-- All issues: those of a stage come before those of its repair. -/
def issues (s : Stages) : List Issue :=
  s.completed.issues ++ s.inputs ++ s.fed.issues ++ s.ports ++ s.converted.issues ++ s.cycles

def result (s : Stages) : Result where
  valid := !s.issues.any Issue.isBlocking
  issues := s.issues
  fixedNodes := s.converted.draft.nodes.toList
  fixedEdges := s.converted.draft.edges.toList
  insertedNodes := s.converted.draft.inserted.toList

/-- The log: a stage is logged after its check, and before its repair. -/
def events (s : Stages) : List Event :=
  s.completed.events ++ [.checked .config s.completed.issues.length] ++
    [.checked .inputs s.inputs.length] ++ s.fed.events ++
    [.checked .ports s.ports.length] ++ s.converted.events ++
    [.checked .cycles s.cycles.length,
      .finished s.result.valid s.result.issues.length s.result.insertedNodes.length]

end Stages

/-- Validates nodes and edges. -/
def validate (catalog : NodeCatalog) (options : Options) (nodes : List Node) (edges : List Edge) :
    Result :=
  (Stages.run catalog options nodes edges).result

/-- The log of validating nodes and edges. -/
def validationEvents (catalog : NodeCatalog) (options : Options) (nodes : List Node)
    (edges : List Edge) : List Event :=
  (Stages.run catalog options nodes edges).events

end Dataflow
