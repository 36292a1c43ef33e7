import Dataflow.Proofs.Port.Connection

/-! Workflows that repair leaves alone.

A workflow is settled (`Settled`) if no entry is left to fill, no node is left to feed and no
edge is left to convert. A run reports nothing that repair can clear just if that is so
(`Stages.forall_not_autoFixable_iff_settled`), and then it changes nothing
(`Settled.result_eq`). -/
namespace Dataflow

/-! ### Entries to fill -/

namespace Completion

/-- No required field is unset that has a default. -/
def Filled (catalog : NodeCatalog) (node : Node) : Prop :=
  ∀ d, catalog.definition node.type = some d → ∀ field ∈ d.requiredFields,
    node.config.unset field.key = true → default? node.type field = none

section
variable {nodeId type : String} {fields : List ConfigField} {config : Config}

/-- Filling reports a field as filled just if one is unset that has a default. -/
theorem not_reported_fill_iff : ¬ Reported .autoFilledConfig (fill nodeId type fields config).2 ↔
    ∀ field ∈ fields, config.unset field.key = true → default? type field = none := by
  fun_induction fill nodeId type fields config with
  | case1 config => simp [Reported]
  | case2 field fields config unset value some config' issues eq ih =>
    simp [Reported, filled, unset, some]
  | case3 field fields config unset none config' issues eq ih =>
    rw [eq] at ih
    rw [List.forall_mem_cons, ← ih]
    simp [Reported, missing, none]
  | case4 field fields config set ih =>
    rw [List.forall_mem_cons, ← ih]
    simp [set]

end

section
variable {catalog : NodeCatalog} {nodes : List Node}

theorem not_reported_completeNode_iff {node : Node} :
    ¬ Reported .autoFilledConfig (completeNode catalog node).2 ↔ Filled catalog node := by
  unfold completeNode Filled
  cases catalog.definition node.type with
  | none => simp [Reported]
  | some d => simp [not_reported_fill_iff]

theorem not_reported_ofNodes_iff : ¬ Reported .autoFilledConfig (ofNodes catalog nodes).issues ↔
    ∀ node ∈ nodes, Filled catalog node := by
  rw [ofNodes, reported_flatMap]
  push Not
  simp only [not_reported_completeNode_iff]

theorem completeNode_eq_self {node : Node} (filled : Filled catalog node) :
    (completeNode catalog node).1 = node := by
  unfold completeNode
  split
  · rfl
  · next d found =>
    have same : (fill node.id node.type d.requiredFields node.config).1 = node.config := by
      refine fill_eq_self fun field mem unset value some => ?_
      rw [filled d found field mem unset] at some
      cases some
    show { node with config := (fill node.id node.type d.requiredFields node.config).1 } = node
    rw [same]

theorem nodes_eq_self (filled : ∀ node ∈ nodes, Filled catalog node) :
    (ofNodes catalog nodes).nodes = nodes :=
  (List.map_congr_left fun node mem => completeNode_eq_self (filled node mem)).trans
    (List.map_id nodes)

end

end Completion

/-! ### Nodes to feed -/

namespace Port.Supply

section
variable {catalog : NodeCatalog} {draft : Draft}

/-- An input is missing just if a node that requires one has no edge to it. -/
theorem not_reported_check_iff : ¬ Reported .missingRequiredInput (check catalog draft) ↔
    ∀ node ∈ draft.nodes.toList, required catalog node.type ≠ [] →
      indegree draft.edges.toList node.id ≠ 0 := by
  constructor
  · intro none node mem some unfed
    obtain ⟨port, first⟩ := Option.isSome_iff_exists.mp (List.isSome_head?.mpr some)
    exact none ⟨missing node.id port, (mem_check_missing_iff rfl).mpr
      ⟨node, mem, unfed, port, first, rfl⟩, rfl⟩
  · intro fed reported
    obtain ⟨issue, mem, kind⟩ := reported
    obtain ⟨node, node_mem, unfed, port, first, -⟩ := (mem_check_missing_iff kind).mp mem
    refine fed node node_mem (fun none => ?_) unfed
    rw [none] at first
    cases first

end

end Port.Supply

/-! ### Settled workflows -/

/-- There is nothing for repair to do. -/
structure Settled (catalog : NodeCatalog) (nodes : List Node) (edges : List Edge) : Prop where
  filled : ∀ node ∈ nodes, Completion.Filled catalog node
  fed : ∀ node ∈ nodes, Port.Supply.required catalog node.type ≠ [] → indegree edges node.id ≠ 0
  connected : ∀ e ∈ edges, ∀ type, Port.connection? catalog nodes e ≠ some (.convertible type)

namespace Stages

theorem repairIf_eq_none {wanted : Bool} {kind : IssueKind} {issues : List Issue} {d : Draft}
    {repair : Draft → Repair} (idle : ¬ Reported kind issues) :
    repairIf wanted kind issues d repair = .none d := by
  rw [repairIf, any_kind_eq_false_iff.mpr idle, Bool.and_false]
  rfl

section
variable {catalog : NodeCatalog} {options : Options} {nodes : List Node} {edges : List Edge}

theorem not_reported_inputs_iff :
    ¬ Reported .missingRequiredInput (run catalog options nodes edges).inputs ↔ ∀ node ∈ nodes,
      Port.Supply.required catalog node.type ≠ [] → indegree edges node.id ≠ 0 := by
  have check : ¬ Reported .missingRequiredInput (run catalog options nodes edges).inputs ↔ _ :=
    Port.Supply.not_reported_check_iff
  rw [check]
  simp [Draft.ofLists, Completion.ofNodes, Completion.completeNode_id, Completion.completeNode_type]

/-- Where no input is missing, ports are checked on the draft that a run starts from. -/
theorem not_reported_ports_iff
    (fed : ¬ Reported .missingRequiredInput (run catalog options nodes edges).inputs) :
    ¬ Reported .convertibleTypeMismatch (run catalog options nodes edges).ports ↔
      ∀ e ∈ edges, ∀ type, Port.connection? catalog nodes e ≠ some (.convertible type) := by
  have same : (run catalog options nodes edges).fed.draft = draft catalog nodes edges :=
    congrArg Repair.draft (repairIf_eq_none fed)
  have check : (run catalog options nodes edges).ports =
      Port.Ends.check catalog (draft catalog nodes edges) := congrArg (Port.Ends.check catalog) same
  rw [check, Port.reported_convertible_iff (indexed_draft catalog nodes edges)]
  simp only [draft, Draft.ofLists, Port.connection?_completed]
  push Not
  rfl

/-- **Repair can clear nothing just if the workflow is settled.** -/
theorem forall_not_autoFixable_iff_settled :
    (∀ issue ∈ (validate catalog options nodes edges).issues, issue.autoFixable = false) ↔
      Settled catalog nodes edges := by
  refine (forall_not_autoFixable_iff catalog options nodes edges).trans ?_
  constructor
  · intro idle
    obtain ⟨filled, fed, connected⟩ := idle
    exact ⟨Completion.not_reported_ofNodes_iff.mp filled, not_reported_inputs_iff.mp fed,
      (not_reported_ports_iff fed).mp connected⟩
  · intro settled
    have fed : ¬ Reported _ (run catalog options nodes edges).inputs :=
      not_reported_inputs_iff.mpr settled.fed
    exact ⟨Completion.not_reported_ofNodes_iff.mpr settled.filled, fed,
      (not_reported_ports_iff fed).mpr settled.connected⟩

end

end Stages

/-- **Repair changes nothing of a settled workflow.** -/
theorem Settled.result_eq {catalog : NodeCatalog} {nodes : List Node} {edges : List Edge}
    (settled : Settled catalog nodes edges) (options : Options) :
    (validate catalog options nodes edges).insertedNodes = [] ∧
      (validate catalog options nodes edges).fixedNodes = nodes ∧
      (validate catalog options nodes edges).fixedEdges = edges := by
  have fed : ¬ Reported _ (Stages.run catalog options nodes edges).inputs :=
    Stages.not_reported_inputs_iff.mpr settled.fed
  have connected := (Stages.not_reported_ports_iff fed).mpr settled.connected
  have same : (Stages.run catalog options nodes edges).converted.draft =
      Stages.draft catalog nodes edges :=
    (congrArg Repair.draft (Stages.repairIf_eq_none connected)).trans
      (congrArg Repair.draft (Stages.repairIf_eq_none fed))
  have filled := Completion.nodes_eq_self settled.filled
  simp only [validate, Stages.result, same, Stages.draft, filled, Draft.ofLists, and_self]

end Dataflow
