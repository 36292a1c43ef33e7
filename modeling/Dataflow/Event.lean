import Dataflow.Json.Value

/-! The log of a validation run.

An event has a level, a message and named fields; which ones, its kind decides. -/
namespace Dataflow

/-- What a stage checked. -/
inductive Stage where
  | config
  | inputs
  | ports
  | cycles
deriving DecidableEq, Repr

inductive Event where
  | unknownType (nodeId nodeType : String)
  | checked (stage : Stage) (count : Nat)
  | insertedSource (nodeId nodeType target : String)
  | insertedConverter (nodeId nodeType edgeId : String)
  | converterNotNeeded (edgeId : String)
  | finished (valid : Bool) (issues inserted : Nat)
deriving DecidableEq, Repr

def Stage.name : Stage → String
  | config => "config completion"
  | inputs => "required inputs"
  | ports => "port compatibility"
  | cycles => "cycle detection"

namespace Event

def level : Event → String
  | unknownType .. => "WARN"
  | insertedSource .. | insertedConverter .. => "INFO"
  | checked .. | converterNotNeeded .. | finished .. => "DEBUG"

def message : Event → String
  | unknownType .. => "unknown node type"
  | checked stage _ => stage.name
  | insertedSource .. => "inserted source node"
  | insertedConverter .. => "inserted converter node"
  | converterNotNeeded .. => "edge no longer needs a converter"
  | finished .. => "validation finished"

def fields : Event → List (String × Json.Value)
  | unknownType nodeId nodeType => [("node_id", .string nodeId), ("node_type", .string nodeType)]
  | checked _ count => [("count", .count count)]
  | insertedSource nodeId nodeType target =>
    [("node_id", .string nodeId), ("node_type", .string nodeType), ("target_node", .string target)]
  | insertedConverter nodeId nodeType edgeId =>
    [("node_id", .string nodeId), ("node_type", .string nodeType), ("edge_id", .string edgeId)]
  | converterNotNeeded edgeId => [("edge_id", .string edgeId)]
  | finished valid issues inserted =>
    [("valid", .bool valid), ("issues", .count issues), ("inserted", .count inserted)]

def toJson (e : Event) : Json.Value :=
  .object [("level", .string e.level), ("message", .string e.message),
    ("fields", .array (e.fields.map fun field => .array [.string field.1, field.2]))]

end Event

end Dataflow
