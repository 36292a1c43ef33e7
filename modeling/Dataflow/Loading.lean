import Dataflow.Catalog
import Dataflow.Report

/-! Workflows and catalogs from JSON text.

Only loading can fail: validation reports problems as issues. -/
namespace Dataflow

inductive LoadError where
  | workflow (error : Json.Error)
  | catalog (error : Json.Error)
  | duplicateType (type : String)

namespace LoadError

/-- A short name for the kind of error. -/
def code : LoadError → String
  | workflow _ => "P001"
  | catalog _ => "P002"
  | duplicateType _ => "P003"

def message : LoadError → String
  | workflow e => "failed to parse workflow JSON: " ++ e.message
  | catalog e => "failed to parse node catalog JSON: " ++ e.message
  | duplicateType type => s!"node type '{type}' is defined more than once in the catalog"

def text (e : LoadError) : String := s!"[{e.code}] {e.message}"

end LoadError

/-- The workflow that a text holds. -/
def Workflow.load (text : String) : Except LoadError Workflow :=
  (Workflow.codec.decode text).mapError .workflow

/-- The catalog of the node definitions that a text lists. -/
def Catalog.load (text : String) : Except LoadError Catalog := do
  let definitions ← (NodeDefinition.codec.list.decode text).mapError LoadError.catalog
  (Catalog.ofDefinitions definitions).mapError fun e => .duplicateType e.type

/-- Validates a workflow against a catalog, both from their texts. -/
def validateTexts (catalog workflow : String) (options : Options) : Except LoadError Result := do
  let catalog ← Catalog.load catalog
  let workflow ← Workflow.load workflow
  .ok (validate catalog options workflow.nodes workflow.edges)

/-- The report on a workflow, or why it could not be loaded. -/
def summarize (catalog workflow : String) (autoFix : Bool) : String :=
  match validateTexts catalog workflow { Options.default with autoFix } with
  | .ok result => result.summary
  | .error e => e.text

end Dataflow
