import Dataflow.Catalog
import Dataflow.Draft
import Dataflow.Issue
import Dataflow.Port.Compatibility

/-! The two ends of an edge, and whether they go together.

`Ends` says how far the ends are known: a node may be missing, or a port of a node,
or both ports are found. Ports that are found may still be of types that do not
connect. -/
namespace Dataflow.Port

inductive Ends where
  | dangling (sourceMissing targetMissing : Bool)
  | unresolved (output input : Option PortDefinition)
  | resolved (output input : PortDefinition)
deriving DecidableEq, Repr

namespace Ends

/-- The ends of an edge: an output of its source and an input of its target. -/
def ofEdge (catalog : NodeCatalog) (draft : Draft) (e : Edge) : Ends :=
  match draft.node? e.source, draft.node? e.target with
  | some source, some target =>
    let output := (catalog.definition source.type).bind (·.outputPort e.sourceHandle)
    let input := (catalog.definition target.type).bind (·.inputPort e.targetHandle)
    match output, input with
    | some output, some input => resolved output input
    | output, input => unresolved output input
  | source, target => dangling source.isNone target.isNone

/-- The converter that the ends need, if there is one between their types. -/
def converter? : Ends → Option String
  | resolved output input => Compatibility.converter? output.type input.type
  | _ => none

def unknownSource (e : Edge) : Issue :=
  .ofEdge .structuralEdge e.id s!"Edge '{e.id}' references unknown source node '{e.source}'"

def unknownTarget (e : Edge) : Issue :=
  .ofEdge .structuralEdge e.id s!"Edge '{e.id}' references unknown target node '{e.target}'"

/-- A port as a message names it. -/
def portName (handle : Option String) : String := handle.getD "<first>"

def notFound (e : Edge) (output input : Option PortDefinition) : Issue :=
  let outputText := s!"output '{portName e.sourceHandle}' on '{e.source}'"
  let inputText := s!"input '{portName e.targetHandle}' on '{e.target}'"
  let missing := (if output.isNone then [outputText] else []) ++
    (if input.isNone then [inputText] else [])
  .ofEdge .unresolvedPort e.id ("Could not resolve port: " ++ ", ".intercalate missing)

def convertible (e : Edge) (output input converter : String) : Issue :=
  .ofEdge .convertibleTypeMismatch e.id
    s!"Type mismatch: '{output}' -> '{input}'; automatic conversion via '{converter}' is available"

def incompatible (e : Edge) (output input : String) : Issue :=
  .ofEdge .incompatibleTypeMismatch e.id
    s!"Incompatible types: '{output}' cannot connect to '{input}'"

/-- The issues of an edge with the given ends. -/
def issues (e : Edge) : Ends → List Issue
  | dangling sourceMissing targetMissing =>
    (if sourceMissing then [unknownSource e] else []) ++
      (if targetMissing then [unknownTarget e] else [])
  | unresolved output input => [notFound e output input]
  | resolved output input =>
    match Compatibility.resolve output.type input.type with
    | .direct => []
    | .convertible converter => [convertible e output.type input.type converter]
    | .incompatible => [incompatible e output.type input.type]

/-- The issues of all edges, in their order. -/
def check (catalog : NodeCatalog) (draft : Draft) : List Issue :=
  draft.edges.toList.flatMap fun e => issues e (ofEdge catalog draft e)

end Ends

end Dataflow.Port
