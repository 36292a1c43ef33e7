/-! How a value of one port type reaches a port of another.

Equal types always connect. Between different types a table says whether they
connect directly, or through a converter node of a type that it names; what it
does not list is incompatible. The table is not symmetric. -/
namespace Dataflow

inductive Compatibility where
  | direct
  | convertible (converter : String)
  | incompatible
deriving DecidableEq, Repr

namespace Compatibility

/-- Source type, target type and how they connect. -/
def table : List (String × String × Compatibility) := [
  ("json", "text", convertible "stringify"),
  ("json", "table-data", convertible "query"),
  ("json", "file-ref", direct),
  ("text", "json", convertible "parse"),
  ("text", "text-sequence", convertible "split"),
  ("csv", "json", convertible "parse"),
  ("csv", "table-data", convertible "parse"),
  ("table-data", "text", convertible "stringify"),
  ("table-data", "xlsx", convertible "export"),
  ("llm-response", "text", direct),
  ("llm-response", "json", convertible "parse"),
  ("ml-result", "json", direct),
  ("ml-result", "table-data", convertible "query"),
  ("ml-result", "text", convertible "stringify"),
  ("image", "text", convertible "ocr"),
  ("image", "analysis", convertible "analyze"),
  ("image", "json", convertible "extract"),
  ("agent-output", "json", direct),
  ("agent-output", "evaluation-result-list", direct),
  ("evaluation-result", "json", direct),
  ("evaluation-result-list", "json", direct),
  ("evaluation-result-list", "agent-output", direct),
  ("voting-result", "json", direct),
  ("voting-result", "decision", direct),
  ("decision", "text", direct),
  ("decision", "json", direct)]

/-- How `source` connects to `target`. -/
def resolve (source target : String) : Compatibility :=
  if source = target then direct
  else
    match table.find? fun row => row.1 == source && row.2.1 == target with
    | some row => row.2.2
    | none => incompatible

/-- The converter between two types, if they need one and there is one. -/
def converter? (source target : String) : Option String :=
  match resolve source target with
  | convertible converter => some converter
  | _ => none

theorem converter?_eq_some_iff {source target converter : String} :
    converter? source target = some converter ↔ resolve source target = convertible converter := by
  unfold converter?
  split <;> simp_all

example : resolve "text" "json" = convertible "parse" := by decide
example : resolve "file-ref" "json" = incompatible := by decide

end Compatibility

end Dataflow
