import Dataflow.Config
import Dataflow.Json.Record

/-! The catalog of node types: ports and configuration of each.

Validation asks for the definition of a type, and takes whatever answers
(`NodeCatalog`). What answers here is a list of definitions, no two of them of
one type (`Catalog`). It is built by inserting definitions one after the other,
and an insertion that would repeat a type is refused and names it. -/
namespace Dataflow

open Json (Codec Field Fields)

structure PortDefinition where
  name : String
  type : String
  required : Bool
deriving DecidableEq, Repr

namespace PortDefinition

def codec : Codec PortDefinition :=
  (Codec.record "PortDefinition"
    (.cons (.required "name" .string)
    (.cons (.required "type" .string)
    (.cons (.withDefault "required" .bool false)
    .nil)))).imap
    (fun (name, type, required, ()) => ⟨name, type, required⟩)
    (fun p => (p.name, p.type, p.required, ()))

end PortDefinition

structure Ports where
  inputs : List PortDefinition
  outputs : List PortDefinition

namespace Ports

def empty : Ports := ⟨[], []⟩

/-- The port with the name of the handle, or the first one without a handle. -/
def select (handle : Option String) (ports : List PortDefinition) : Option PortDefinition :=
  match handle with
  | some name => ports.find? fun p => p.name == name
  | none => ports.head?

def codec : Codec Ports :=
  (Codec.record "Ports"
    (.cons (.withDefault "inputs" PortDefinition.codec.list [])
    (.cons (.withDefault "outputs" PortDefinition.codec.list [])
    .nil))).imap
    (fun (inputs, outputs, ()) => ⟨inputs, outputs⟩) (fun p => (p.inputs, p.outputs, ()))

end Ports

/-- An entry that nodes of a type may or must be configured with. -/
structure ConfigField where
  key : String
  required : Bool
  default : Option ConfigValue

namespace ConfigField

def codec : Codec ConfigField :=
  (Codec.record "ConfigField"
    (.cons (.required "key" .string)
    (.cons (.withDefault "required" .bool false)
    (.cons (.optional "default" ConfigValue.codec)
    .nil)))).imap
    (fun (key, required, default, ()) => ⟨key, required, default⟩)
    (fun f => (f.key, f.required, f.default, ()))

end ConfigField

structure NodeDefinition where
  type : String
  ports : Ports
  configSchema : List ConfigField

namespace NodeDefinition

def empty (type : String) : NodeDefinition := ⟨type, .empty, []⟩

def addInput (d : NodeDefinition) (p : PortDefinition) : NodeDefinition :=
  { d with ports := { d.ports with inputs := d.ports.inputs ++ [p] } }

def addOutput (d : NodeDefinition) (p : PortDefinition) : NodeDefinition :=
  { d with ports := { d.ports with outputs := d.ports.outputs ++ [p] } }

def addField (d : NodeDefinition) (f : ConfigField) : NodeDefinition :=
  { d with configSchema := d.configSchema ++ [f] }

def outputPort (d : NodeDefinition) (handle : Option String) : Option PortDefinition :=
  Ports.select handle d.ports.outputs

def inputPort (d : NodeDefinition) (handle : Option String) : Option PortDefinition :=
  Ports.select handle d.ports.inputs

def requiredInputs (d : NodeDefinition) : List PortDefinition := d.ports.inputs.filter (·.required)

def requiredFields (d : NodeDefinition) : List ConfigField := d.configSchema.filter (·.required)

def codec : Codec NodeDefinition :=
  (Codec.record "NodeDefinition"
    (.cons (.required "type" .string)
    (.cons (.withDefault "ports" Ports.codec .empty)
    (.cons (.withDefault "configSchema" ConfigField.codec.list [])
    .nil)))).imap
    (fun (type, ports, configSchema, ()) => ⟨type, ports, configSchema⟩)
    (fun d => (d.type, d.ports, d.configSchema, ()))

end NodeDefinition

/-- What validation knows of node types: for each at most one definition. -/
structure NodeCatalog where
  definition : String → Option NodeDefinition

/-- Definitions of pairwise different types. -/
structure Catalog where
  definitions : List NodeDefinition
  nodup : (definitions.map (·.type)).Nodup

/-- The type that a catalog would define twice. -/
structure DuplicateType where
  type : String
deriving DecidableEq, Repr

namespace Catalog

def empty : Catalog := ⟨[], .nil⟩

/-- The definition of a type. -/
def definition (c : Catalog) (type : String) : Option NodeDefinition :=
  c.definitions.find? fun d => d.type == type

@[coe] def toNodeCatalog (c : Catalog) : NodeCatalog := ⟨c.definition⟩

instance : Coe Catalog NodeCatalog := ⟨toNodeCatalog⟩

/-- Adds a definition, unless its type is defined: the catalog after that, and what came of it. -/
def insert (c : Catalog) (d : NodeDefinition) : Catalog × Except DuplicateType Unit :=
  if h : d.type ∈ c.definitions.map (·.type) then (c, .error ⟨d.type⟩)
  else (⟨d :: c.definitions, by simpa using ⟨by simpa using h, c.nodup⟩⟩, .ok ())

/-- Inserts definitions in order, up to the first one that is refused. -/
def insertAll (c : Catalog) : List NodeDefinition → Catalog × Except DuplicateType Unit
  | [] => (c, .ok ())
  | d :: definitions =>
    match c.insert d with
    | (c, .ok ()) => c.insertAll definitions
    | (c, .error e) => (c, .error e)

/-- The catalog of some definitions, inserted in order. -/
def ofDefinitions (definitions : List NodeDefinition) : Except DuplicateType Catalog :=
  match empty.insertAll definitions with
  | (c, .ok ()) => .ok c
  | (_, .error e) => .error e

end Catalog

end Dataflow
