import Dataflow.Config

/-! What the nodes of a type are configured with unless someone says otherwise.

`Defaults.value` gives the default of one entry, and `Defaults.config` all defaults
of a type, for a node that is inserted. -/
namespace Dataflow.Defaults

/-- The entries of each node type that has defaults. -/
def table : List (String × List (String × ConfigValue)) := [
  ("file-source", [("path", .string "./input"), ("encoding", .string "utf-8")]),
  ("folder-source",
    [("path", .string "./input"), ("pattern", .string "*"), ("recursive", .bool true)]),
  ("structured-file-loader", [("path", .string "./input.json"), ("format", .string "auto")]),
  ("stringify", [("format", .string "json"), ("indent", .number 2)]),
  ("parse", [("format", .string "auto"), ("strict", .bool false)]),
  ("query", [("expression", .string "$")]),
  ("split", [("delimiter", .string "\n"), ("chunk_size", .number 1000)]),
  ("export", [("format", .string "xlsx"), ("sheet_name", .string "Sheet1")]),
  ("ocr", [("language", .string "eng")]),
  ("analyze", [("mode", .string "describe")]),
  ("extract", [("schema", .string "auto")]),
  ("llm-prompt",
    [("model", .string "default"), ("temperature", .number 0.7), ("max_tokens", .number 1024)]),
  ("text-splitter", [("chunk_size", .number 1000)]),
  ("embedder", [("model", .string "default")])]

/-- The entries that have a default. -/
def entries (type : String) : List (String × ConfigValue) := (table.lookup type).getD []

/-- The default of one entry. -/
def value (type key : String) : Option ConfigValue := (entries type).lookup key

/-- All defaults of a node type. -/
def config (type : String) : Config := Entries.ofList (entries type)

example : (config "folder-source").map (·.1) = ["path", "pattern", "recursive"] := by decide

end Dataflow.Defaults
