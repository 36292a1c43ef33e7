import Dataflow.Proofs.Repair.Alike
import Dataflow.Proofs.Reports

/-! What positions and configurations make a difference to.

Positions are for display: the one of an inserted node is worked out from others, and nothing else
looks at any. Configurations matter to completion. So of nodes that agree on id and type
(`Node.outline`), runs are alike from the second stage on (`Stages.alike_run`), whatever the offset
of sources is, and completion reports the same but for the entries of configurations
(`Stages.besidesConfig_run`). -/
namespace Dataflow

/-- Whether issues of the kind are about entries of configurations. -/
def IssueKind.ofConfig : IssueKind → Bool
  | autoFilledConfig | missingRequiredConfig => true
  | _ => false

/-- All that is reported but the entries that were filled or are missing. -/
def Result.besidesConfig (r : Result) : List Issue := r.issues.filter fun i => !i.kind.ofConfig

/-! ### Completion -/

namespace Completion

section
variable (catalog : NodeCatalog) (nodes : List Node)

theorem outline_completeNode (node : Node) :
    (completeNode catalog node).1.outline = node.outline :=
  Node.outline_eq_iff.mpr ⟨completeNode_id catalog node, completeNode_type catalog node⟩

/-- Completion leaves ids and types alone. -/
theorem outlines_ofNodes : (ofNodes catalog nodes).nodes.map Node.outline =
    nodes.map Node.outline := by
  rw [ofNodes, List.map_map]
  exact List.map_congr_left fun node _ => outline_completeNode catalog node

end

/-- What is reported of a node besides its entries. -/
theorem besidesConfig_completeNode (catalog : NodeCatalog) (node : Node) :
    (completeNode catalog node).2.filter (fun i => !i.kind.ofConfig) =
      if catalog.definition node.type = none then (completeNode catalog node).2 else [] := by
  unfold completeNode
  split
  · next unknown => simp [unknown, IssueKind.ofConfig]
  · next d known =>
    rw [known, if_neg (by simp), List.filter_eq_nil_iff]
    intro issue mem
    obtain ⟨field, -, ⟨value, -, rfl⟩ | ⟨-, rfl⟩⟩ := mem_fill mem
    · simp [filled, IssueKind.ofConfig]
    · simp [missing, IssueKind.ofConfig]

/-- Besides entries, what is reported of nodes is a matter of ids and types. -/
theorem besidesConfig_ofNodes (catalog : NodeCatalog) {nodes nodes' : List Node}
    (same : nodes'.map Node.outline = nodes.map Node.outline) :
    (ofNodes catalog nodes').issues.filter (fun i => !i.kind.ofConfig) =
      (ofNodes catalog nodes).issues.filter fun i => !i.kind.ofConfig := by
  rw [ofNodes, ofNodes, List.filter_flatMap, List.filter_flatMap]
  refine flatMap_congr_of_outlines (fun n n' outline => ?_) same
  obtain ⟨id, type⟩ := Node.outline_eq_iff.mp outline
  rw [besidesConfig_completeNode, besidesConfig_completeNode, type]
  split
  · next unknown => simp only [completeNode, type, id, unknown]
  · rfl

end Completion

/-! ### Runs -/

namespace Stages

/-- A repair that is made of alike drafts if it is made at all. -/
theorem alike_repairIf (wanted : Bool) (kind : IssueKind) (issues : List Issue) {d d' : Draft}
    {repair repair' : Draft → Repair} (h : d.Alike d') (repaired : (repair d).Alike (repair' d')) :
    (repairIf wanted kind issues d repair).Alike (repairIf wanted kind issues d' repair') := by
  unfold repairIf
  split
  · exact repaired
  · exact .none h

/-- Completion apart, the stages find the same and do the same, but for positions. -/
structure Alike (s s' : Stages) : Prop where
  inputs : s'.inputs = s.inputs
  fed : s.fed.Alike s'.fed
  ports : s'.ports = s.ports
  converted : s.converted.Alike s'.converted
  cycles : s'.cycles = s.cycles

section
variable (catalog : NodeCatalog) (edges : List Edge) {nodes nodes' : List Node}
  (same : nodes'.map Node.outline = nodes.map Node.outline)
include same

theorem alike_draft : (draft catalog nodes edges).Alike (draft catalog nodes' edges) := by
  refine Draft.alike_ofLists ?_ edges
  rw [Completion.outlines_ofNodes, Completion.outlines_ofNodes, same]

/-- **Runs on nodes that agree on id and type** are alike. -/
theorem alike_run (autoFix : Bool) (offset offset' : Float) :
    (run catalog ⟨autoFix, offset⟩ nodes edges).Alike
      (run catalog ⟨autoFix, offset'⟩ nodes' edges) := by
  have start := alike_draft catalog edges same
  have inputs : (run catalog ⟨autoFix, offset'⟩ nodes' edges).inputs =
      (run catalog ⟨autoFix, offset⟩ nodes edges).inputs := Port.Supply.check_alike catalog start
  have fed : (run catalog ⟨autoFix, offset⟩ nodes edges).fed.Alike
      (run catalog ⟨autoFix, offset'⟩ nodes' edges).fed := by
    rw [fed_eq, fed_eq, inputs]
    exact alike_repairIf autoFix _ _ start (Repair.Source.alike_insertAll catalog _ _ _ start)
  have ports : (run catalog ⟨autoFix, offset'⟩ nodes' edges).ports =
      (run catalog ⟨autoFix, offset⟩ nodes edges).ports := Port.Ends.check_alike catalog fed.draft
  have converted : (run catalog ⟨autoFix, offset⟩ nodes edges).converted.Alike
      (run catalog ⟨autoFix, offset'⟩ nodes' edges).converted := by
    rw [converted_eq, converted_eq, ports]
    exact alike_repairIf autoFix _ _ fed.draft (Repair.Converter.alike_repair catalog fed.draft _)
  exact ⟨inputs, fed, ports, converted, Graph.Cycle.check_alike converted.draft⟩

end

/-- Besides entries, completion reports unknown types, and the other stages report all else. -/
theorem Kinds.besidesConfig_eq {s : Stages} (kinds : s.Kinds) : s.result.besidesConfig =
    s.completed.issues.filter (fun i => !i.kind.ofConfig) ++ s.inputs ++ s.fed.issues ++ s.ports ++
      s.converted.issues ++ s.cycles := by
  have others {kinds : List IssueKind} {issues : List Issue} (h : OfKinds kinds issues)
      (off : ∀ kind ∈ kinds, (!kind.ofConfig) = true) :
      issues.filter (fun i => !i.kind.ofConfig) = issues := h.filter_kind_eq_self off
  simp only [Result.besidesConfig, result, issues, List.filter_append]
  rw [others kinds.inputs (by decide), others kinds.fed (by decide), others kinds.ports (by decide),
    others kinds.converted (by decide), others kinds.cycles (by decide)]

/-- Besides entries, runs on nodes that agree on id and type report the same. -/
theorem besidesConfig_run (catalog : NodeCatalog) (edges : List Edge) {nodes nodes' : List Node}
    (same : nodes'.map Node.outline = nodes.map Node.outline) (autoFix : Bool)
    (offset offset' : Float) :
    (validate catalog ⟨autoFix, offset'⟩ nodes' edges).besidesConfig =
      (validate catalog ⟨autoFix, offset⟩ nodes edges).besidesConfig := by
  have alike := alike_run catalog edges same autoFix offset offset'
  refine (kinds_run catalog ⟨autoFix, offset'⟩ nodes' edges).besidesConfig_eq.trans ?_
  refine .trans ?_ (kinds_run catalog ⟨autoFix, offset⟩ nodes edges).besidesConfig_eq.symm
  rw [alike.inputs, alike.fed.issues, alike.ports, alike.converted.issues, alike.cycles]
  exact congrArg (· ++ _ ++ _ ++ _ ++ _ ++ _) (Completion.besidesConfig_ofNodes catalog same)

end Stages

/-- **Positions are for display, and configurations for completion.** Of nodes that agree on id
and type, one by one, runs leave the same edges and insert the same nodes but for positions. They
report the same, in the same order, but for entries that were filled or are missing, and leave
nodes that agree on id and type. -/
theorem noninterference (catalog : NodeCatalog) (edges : List Edge) (autoFix : Bool)
    (offset offset' : Float) {nodes nodes' : List Node}
    (same : nodes'.map Node.outline = nodes.map Node.outline) :
    let result := validate catalog ⟨autoFix, offset⟩ nodes edges
    let result' := validate catalog ⟨autoFix, offset'⟩ nodes' edges
    result'.fixedEdges = result.fixedEdges ∧
      result'.insertedNodes.map Node.unplaced = result.insertedNodes.map Node.unplaced ∧
      result'.besidesConfig = result.besidesConfig ∧
      result'.fixedNodes.map Node.outline = result.fixedNodes.map Node.outline := by
  intro result result'
  have alike := Stages.alike_run catalog edges same autoFix offset offset'
  exact ⟨congrArg Array.toList alike.converted.draft.edges, alike.converted.draft.inserted,
    Stages.besidesConfig_run catalog edges same autoFix offset offset',
    alike.converted.draft.nodes⟩

/-- One node has the entry that its type requires and the other one lacks it, so that one run finds
the workflow valid and the other one does not. Both insert the same source and converter. -/
theorem noninterference_titled :
    let port (type : String) (required : Bool) : PortDefinition := ⟨"port", type, required⟩
    let catalog : Catalog :=
      ⟨[⟨"index", ⟨[port "text-sequence" true], []⟩, [⟨"title", true, none⟩]⟩,
        ⟨"file-source", ⟨[], [port "text" false]⟩, []⟩], by decide⟩
    let result := validate catalog ⟨true, 250⟩ [⟨"a", "index", .origin, []⟩] []
    let result' :=
      validate catalog ⟨true, 100⟩ [⟨"a", "index", ⟨30, 40⟩, [("title", .string "A")]⟩] []
    (result.valid = false ∧ result'.valid = true ∧
      result.insertedNodes.map (·.id) = ["auto-file-source-1", "auto-split-1"]) ∧
    result'.fixedEdges = result.fixedEdges ∧
      result'.insertedNodes.map Node.unplaced = result.insertedNodes.map Node.unplaced ∧
      result'.besidesConfig = result.besidesConfig ∧
      result'.fixedNodes.map Node.outline = result.fixedNodes.map Node.outline := by
  intro port catalog result result'
  exact ⟨by decide +kernel, noninterference catalog [] true 250 100 rfl⟩

end Dataflow
