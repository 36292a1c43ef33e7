import Dataflow.Catalog
import Dataflow.Config.Defaults
import Dataflow.Event
import Dataflow.Issue
import Dataflow.Workflow

/-! Completing the configuration of nodes.

A required entry that is unset is filled with the default of the node's type, or
else with the default that its definition declares; without either it is reported.
The fields are gone through in order, and each sees what the ones before it have
filled. A node of unknown type is reported and left alone. -/
namespace Dataflow

/-- The completed nodes, in their order, and what is reported of them. -/
structure Completion where
  nodes : List Node
  issues : List Issue
  events : List Event

namespace Completion

def filled (nodeId : String) (field : ConfigField) (value : ConfigValue) : Issue :=
  .ofNode .autoFilledConfig nodeId
    s!"Required config field '{field.key}' was empty; filled with default {value.text}"

def missing (nodeId : String) (field : ConfigField) : Issue :=
  .ofNode .missingRequiredConfig nodeId
    s!"Required config field '{field.key}' is missing and has no default"

/-- The default of a field: that of the node's type wins over the declared one. -/
def default? (type : String) (field : ConfigField) : Option ConfigValue :=
  (Defaults.value type field.key).or field.default

/-- Fills required fields of a node of the given id and type. -/
def fill (nodeId type : String) : List ConfigField → Config → Config × List Issue
  | [], config => (config, [])
  | field :: fields, config =>
    if config.unset field.key then
      match default? type field with
      | some value =>
        let (config, issues) := fill nodeId type fields (config.insert field.key value)
        (config, filled nodeId field value :: issues)
      | none =>
        let (config, issues) := fill nodeId type fields config
        (config, missing nodeId field :: issues)
    else fill nodeId type fields config

/-- A node with its configuration filled, and the issues of it. -/
def completeNode (catalog : NodeCatalog) (node : Node) : Node × List Issue :=
  match catalog.definition node.type with
  | none => (node, [.ofNode .unknownNodeType node.id s!"Unknown node type '{node.type}'"])
  | some d =>
    let (config, issues) := fill node.id node.type d.requiredFields node.config
    ({ node with config }, issues)

/-- What the log says of a node. -/
def nodeEvents (catalog : NodeCatalog) (node : Node) : List Event :=
  if (catalog.definition node.type).isSome then [] else [.unknownType node.id node.type]

/-- Completes every node by itself. -/
def ofNodes (catalog : NodeCatalog) (nodes : List Node) : Completion where
  nodes := nodes.map fun node => (completeNode catalog node).1
  issues := nodes.flatMap fun node => (completeNode catalog node).2
  events := nodes.flatMap (nodeEvents catalog)

end Completion

end Dataflow
