import Dataflow.Json.Record

/-! Issues that validation reports.

The kind of an issue fixes its code, its severity and whether repair can clear it;
an issue that was saved keeps what was written. Errors that repair cannot clear
are blocking. -/
namespace Dataflow

open Json (Codec Field Fields)

inductive Severity where
  | error
  | warning
  | info
deriving DecidableEq, Repr

namespace Severity

def all : List Severity := [error, warning, info]

def name : Severity → String
  | error => "error"
  | warning => "warning"
  | info => "info"

def codec : Codec Severity := .choice name all

end Severity

inductive IssueKind where
  | structuralEdge
  | unknownNodeType
  | missingRequiredConfig
  | autoFilledConfig
  | missingRequiredInput
  | ambiguousPortConnection
  | unresolvedPort
  | convertibleTypeMismatch
  | incompatibleTypeMismatch
  | cycle
  | repairApplied
deriving DecidableEq, Repr

namespace IssueKind

def all : List IssueKind :=
  [structuralEdge, unknownNodeType, missingRequiredConfig, autoFilledConfig, missingRequiredInput,
    ambiguousPortConnection, unresolvedPort, convertibleTypeMismatch, incompatibleTypeMismatch,
    cycle, repairApplied]

def name : IssueKind → String
  | structuralEdge => "structuralEdge"
  | unknownNodeType => "unknownNodeType"
  | missingRequiredConfig => "missingRequiredConfig"
  | autoFilledConfig => "autoFilledConfig"
  | missingRequiredInput => "missingRequiredInput"
  | ambiguousPortConnection => "ambiguousPortConnection"
  | unresolvedPort => "unresolvedPort"
  | convertibleTypeMismatch => "convertibleTypeMismatch"
  | incompatibleTypeMismatch => "incompatibleTypeMismatch"
  | cycle => "cycle"
  | repairApplied => "repairApplied"

def code : IssueKind → String
  | structuralEdge => "V001"
  | unknownNodeType => "V002"
  | missingRequiredConfig => "V003"
  | autoFilledConfig => "V004"
  | missingRequiredInput => "V005"
  | ambiguousPortConnection => "V006"
  | unresolvedPort => "V007"
  | convertibleTypeMismatch => "V008"
  | incompatibleTypeMismatch => "V009"
  | cycle => "V010"
  | repairApplied => "V011"

def severity : IssueKind → Severity
  | structuralEdge | unknownNodeType | missingRequiredConfig | missingRequiredInput
  | convertibleTypeMismatch | incompatibleTypeMismatch | cycle => .error
  | autoFilledConfig | ambiguousPortConnection | unresolvedPort => .warning
  | repairApplied => .info

/-- Whether repair clears issues of this kind. An edge to a node that does not
exist cannot be repaired. -/
def autoFixable : IssueKind → Bool
  | autoFilledConfig | missingRequiredInput | convertibleTypeMismatch => true
  | _ => false

def codec : Codec IssueKind := .choice name all

end IssueKind

structure Issue where
  kind : IssueKind
  code : String
  severity : Severity
  nodeId : Option String
  edgeId : Option String
  message : String
  autoFixable : Bool
  /-- The ids along a cycle; the last one is the first one again. -/
  path : Option (List String)
deriving DecidableEq, Repr

namespace Issue

/-- An issue about the workflow as a whole. -/
def general (kind : IssueKind) (message : String) : Issue :=
  ⟨kind, kind.code, kind.severity, none, none, message, kind.autoFixable, none⟩

def ofNode (kind : IssueKind) (nodeId message : String) : Issue :=
  { general kind message with nodeId := some nodeId }

def ofEdge (kind : IssueKind) (edgeId message : String) : Issue :=
  { general kind message with edgeId := some edgeId }

/-- A cycle, placed at the node where it closes. -/
def ofCycle (path : List String) : Issue :=
  { general .cycle ("Cycle detected: " ++ " -> ".intercalate path) with
    nodeId := path.head?, path := some path }

/-- Whether the issue is an error that repair cannot clear. -/
def isBlocking (i : Issue) : Bool := i.severity == .error && !i.autoFixable

section
variable (kind : IssueKind) (id message : String) (path : List String)

@[simp] theorem isBlocking_ofNode :
    (ofNode kind id message).isBlocking = (kind.severity == .error && !kind.autoFixable) := rfl

@[simp] theorem isBlocking_ofEdge :
    (ofEdge kind id message).isBlocking = (kind.severity == .error && !kind.autoFixable) := rfl

@[simp] theorem isBlocking_ofCycle : (ofCycle path).isBlocking = true := rfl

@[simp] theorem kind_ofNode : (ofNode kind id message).kind = kind := rfl

@[simp] theorem kind_ofEdge : (ofEdge kind id message).kind = kind := rfl

@[simp] theorem kind_ofCycle : (ofCycle path).kind = .cycle := rfl

end

/-- One line: the code, the message, and the edge or else the node. -/
def text (i : Issue) : String :=
  let suffix := match i.edgeId, i.nodeId with
    | some edge, _ => s!" (edge '{edge}')"
    | none, some node => s!" (node '{node}')"
    | none, none => ""
  s!"[{i.code}] {i.message}" ++ suffix

def codec : Codec Issue :=
  (Codec.record "ValidationIssue"
    (.cons (.required "kind" IssueKind.codec)
    (.cons (.required "code" .string)
    (.cons (.required "severity" Severity.codec)
    (.cons (.optional "nodeId" .string)
    (.cons (.optional "edgeId" .string)
    (.cons (.required "message" .string)
    (.cons (.required "autoFixable" .bool)
    (.cons (.optional "path" Codec.string.list)
    .nil))))))))).imap
    (fun (kind, code, severity, nodeId, edgeId, message, autoFixable, path, ()) =>
      ⟨kind, code, severity, nodeId, edgeId, message, autoFixable, path⟩)
    (fun i =>
      (i.kind, i.code, i.severity, i.nodeId, i.edgeId, i.message, i.autoFixable, i.path, ()))

end Issue

end Dataflow
