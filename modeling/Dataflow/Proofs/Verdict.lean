import Dataflow.Validation
import Dataflow.Proofs.Config.Completion
import Dataflow.Proofs.Cycle.Check
import Dataflow.Proofs.Draft.Lookup
import Dataflow.Proofs.Port.Issues

/-! The verdict of a validation without repair.

Each stage is blocking just if the workflow breaks one rule, and the rules are said of
the nodes and edges that are given (`Sound`): no stage hides what another one finds, or
finds what is not there (`valid_iff_sound`). -/
namespace Dataflow

/-- Some issue is one that repair cannot clear. -/
def Blocked (issues : List Issue) : Prop := issues.any Issue.isBlocking = true

theorem blocked_append {a b : List Issue} : Blocked (a ++ b) ↔ Blocked a ∨ Blocked b := by
  simp [Blocked]

theorem blocked_flatMap {α : Type} {items : List α} {issues : α → List Issue} :
    Blocked (items.flatMap issues) ↔ ∃ item ∈ items, Blocked (issues item) := by
  simp [Blocked, List.any_flatMap]

/-! ### Ports -/

namespace Port

/-- The output that an edge starts from, on the first node of its source. -/
def output? (catalog : NodeCatalog) (nodes : List Node) (e : Edge) : Option PortDefinition :=
  (nodes.find? fun n => n.id == e.source).bind fun n =>
    (catalog.definition n.type).bind (·.outputPort e.sourceHandle)

/-- The input that an edge leads to, on the first node of its target. -/
def input? (catalog : NodeCatalog) (nodes : List Node) (e : Edge) : Option PortDefinition :=
  (nodes.find? fun n => n.id == e.target).bind fun n =>
    (catalog.definition n.type).bind (·.inputPort e.targetHandle)

/-- Required inputs are never blocking: what is missing can be fed. -/
theorem not_blocked_supply (catalog : NodeCatalog) (draft : Draft) :
    ¬ Blocked (Supply.check catalog draft) := by
  rw [Supply.check, blocked_flatMap]
  intro some
  obtain ⟨node, -, blocked⟩ := some
  obtain ⟨issue, reported, blocking⟩ := List.any_eq_true.mp blocked
  rcases Supply.mem_nodeIssues_iff.mp reported with ⟨-, port, -, rfl⟩ | ⟨-, port, -, -, rfl⟩
  · simp [Supply.missing, IssueKind.severity, IssueKind.autoFixable] at blocking
  · simp [Supply.ambiguous, IssueKind.severity] at blocking

/-- The ends of an edge are blocking if a node is missing or the types do not go together. -/
theorem blocked_ends (e : Edge) (ends : Ends) : Blocked (Ends.issues e ends) ↔
    match ends with
    | .dangling sourceMissing targetMissing => sourceMissing = true ∨ targetMissing = true
    | .unresolved _ _ => False
    | .resolved output input => Compatibility.resolve output.type input.type = .incompatible := by
  simp only [Blocked, List.any_eq_true, Ends.mem_issues_iff]
  cases ends with
  | dangling source target =>
    simp [or_and_right, exists_or, Ends.unknownSource, Ends.unknownTarget, IssueKind.severity,
      IssueKind.autoFixable]
  | unresolved output input =>
    simp [Ends.notFound, IssueKind.severity]
  | resolved output input =>
    constructor
    · intro some
      obtain ⟨issue, ⟨converter, -, rfl⟩ | ⟨incompatible, -⟩, blocking⟩ := some
      · simp [Ends.convertible, IssueKind.severity, IssueKind.autoFixable] at blocking
      · exact incompatible
    · intro incompatible
      exact ⟨_, .inr ⟨incompatible, rfl⟩, rfl⟩

theorem exists_id_iff (nodes : List Node) (id : String) :
    (∃ n ∈ nodes, n.id = id) ↔ (nodes.find? fun n => n.id == id).isSome = true := by
  simp [List.find?_isSome]

/-- An edge is blocking if it is not attached at both ends, or joins types that do not go
together. -/
theorem blocked_ofEdge {catalog : NodeCatalog} {draft : Draft} (indexed : draft.Indexed)
    (e : Edge) :
    Blocked (Ends.issues e (Ends.ofEdge catalog draft e)) ↔
      ¬ ((∃ n ∈ draft.nodes.toList, n.id = e.source) ∧
          ∃ n ∈ draft.nodes.toList, n.id = e.target) ∨
        ∃ output input, output? catalog draft.nodes.toList e = some output ∧
          input? catalog draft.nodes.toList e = some input ∧
          Compatibility.resolve output.type input.type = .incompatible := by
  rw [blocked_ends, exists_id_iff, exists_id_iff]
  unfold Ends.ofEdge output? input?
  rw [indexed.node?_eq_find?, indexed.node?_eq_find?]
  cases draft.nodes.toList.find? fun n => n.id == e.source with
  | none => simp
  | some source =>
    cases draft.nodes.toList.find? fun n => n.id == e.target with
    | none => simp
    | some target =>
      simp only [Option.bind_some, Option.isSome_some, and_self, not_true, false_or]
      cases (catalog.definition source.type).bind (·.outputPort e.sourceHandle) with
      | none => simp
      | some output =>
        cases (catalog.definition target.type).bind (·.inputPort e.targetHandle) <;> simp

end Port

/-! ### The verdict -/

/-- The rules that a workflow has to keep. -/
structure Sound (catalog : NodeCatalog) (nodes : List Node) (edges : List Edge) : Prop where
  typed : ∀ node ∈ nodes, catalog.definition node.type ≠ none
  configured : ∀ node ∈ nodes, ∀ d, catalog.definition node.type = some d →
    ¬ Completion.Lacks node.type d.requiredFields node.config
  attached : ∀ e ∈ edges, (∃ n ∈ nodes, n.id = e.source) ∧ ∃ n ∈ nodes, n.id = e.target
  compatible : ∀ e ∈ edges, ∀ output input, Port.output? catalog nodes e = some output →
    Port.input? catalog nodes e = some input →
    Compatibility.resolve output.type input.type ≠ .incompatible
  acyclic : ¬ Graph.Cycle.Cyclic (Arc edges)

section
variable (catalog : NodeCatalog) (nodes : List Node)

/-- Completion leaves ids and types alone, so that ports are found as before. -/
theorem output?_completed (e : Edge) :
    Port.output? catalog (Completion.ofNodes catalog nodes).nodes e =
      Port.output? catalog nodes e := by
  rw [Port.output?, Port.output?, Completion.find?_nodes]
  cases nodes.find? fun n => n.id == e.source with
  | none => rfl
  | some n => simp [Completion.completeNode_type]

theorem input?_completed (e : Edge) :
    Port.input? catalog (Completion.ofNodes catalog nodes).nodes e =
      Port.input? catalog nodes e := by
  rw [Port.input?, Port.input?, Completion.find?_nodes]
  cases nodes.find? fun n => n.id == e.target with
  | none => rfl
  | some n => simp [Completion.completeNode_type]

theorem exists_id_completed (id : String) :
    (∃ n ∈ (Completion.ofNodes catalog nodes).nodes, n.id = id) ↔ ∃ n ∈ nodes, n.id = id := by
  simp [Completion.ofNodes, Completion.completeNode_id]

theorem blocked_completion : Blocked (Completion.ofNodes catalog nodes).issues ↔
    ∃ node ∈ nodes, catalog.definition node.type = none ∨
      ∃ d, catalog.definition node.type = some d ∧
        Completion.Lacks node.type d.requiredFields node.config := by
  rw [Completion.ofNodes, blocked_flatMap]
  simp only [Blocked, Completion.any_isBlocking_completeNode]

theorem blocked_ports (edges : List Edge) :
    Blocked (Port.Ends.check catalog
      (Draft.ofLists (Completion.ofNodes catalog nodes).nodes edges)) ↔
      ∃ e ∈ edges, ¬ ((∃ n ∈ nodes, n.id = e.source) ∧ ∃ n ∈ nodes, n.id = e.target) ∨
        ∃ output input, Port.output? catalog nodes e = some output ∧
          Port.input? catalog nodes e = some input ∧
          Compatibility.resolve output.type input.type = .incompatible := by
  rw [Port.Ends.check, blocked_flatMap]
  simp only [Port.blocked_ofEdge (Draft.indexed_ofLists _ _)]
  simp only [Draft.ofLists, List.toList_toArray, exists_id_completed, output?_completed,
    input?_completed]

theorem blocked_cycles (draft : Draft) :
    Blocked (Graph.Cycle.check draft) ↔ Graph.Cycle.Cyclic (Arc draft.edges.toList) := by
  rw [← Graph.Cycle.check_ne_nil_iff, Graph.Cycle.check]
  cases Graph.Cycle.paths (Graph.Cycle.ofDraft draft) with
  | nil => simp [Blocked]
  | cons path paths => simp [Blocked]

/-- **A workflow is found valid just if it keeps the rules.** -/
theorem valid_iff_sound (edges : List Edge) (offset : Float) :
    (validate catalog ⟨false, offset⟩ nodes edges).valid = true ↔ Sound catalog nodes edges := by
  have stages : (validate catalog ⟨false, offset⟩ nodes edges).valid = true ↔
      ¬ Blocked (Stages.run catalog ⟨false, offset⟩ nodes edges).issues := by
    simp [validate, Stages.result, Blocked]
  rw [stages, Stages.issues]
  simp only [Stages.run, Stages.repairIf, Bool.false_and, Bool.false_eq_true, if_false,
    Repair.none, List.append_nil]
  simp only [blocked_append, Port.not_blocked_supply, blocked_completion, blocked_ports,
    blocked_cycles, or_false]
  constructor
  · intro unblocked
    exact {
      typed := fun node mem none => unblocked (.inl (.inl ⟨node, mem, .inl none⟩))
      configured := fun node mem d some lacks =>
        unblocked (.inl (.inl ⟨node, mem, .inr ⟨d, some, lacks⟩⟩))
      attached := fun e mem =>
        not_not.mp fun loose => unblocked (.inl (.inr ⟨e, mem, .inl loose⟩))
      compatible := fun e mem output input ho hi h =>
        unblocked (.inl (.inr ⟨e, mem, .inr ⟨output, input, ho, hi, h⟩⟩))
      acyclic := fun cyclic => unblocked (.inr cyclic) }
  · intro sound blocked
    rcases blocked with (⟨node, mem, none | ⟨d, some, lacks⟩⟩ | ⟨e, mem, loose | mismatch⟩) | cyclic
    · exact sound.typed node mem none
    · exact sound.configured node mem d some lacks
    · exact loose (sound.attached e mem)
    · obtain ⟨output, input, ho, hi, h⟩ := mismatch
      exact sound.compatible e mem output input ho hi h
    · exact sound.acyclic cyclic

end

end Dataflow
