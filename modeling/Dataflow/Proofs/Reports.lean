import Dataflow.Proofs.Stages
import Dataflow.Proofs.Verdict

/-! Which stage reports what.

Every stage reports issues of its own kinds, and each issue has the code and the severity of
its kind and says of itself what repair can do about that (`OfKinds`). So what is blocking,
and what repair can clear, has to come from the stages that report such kinds
(`Stages.valid_run_iff`, `Stages.forall_not_autoFixable_iff`). -/
namespace Dataflow

/-- An issue of one of the kinds, with what its kind fixes. -/
structure Issue.IsOf (kinds : List IssueKind) (i : Issue) : Prop where
  mem : i.kind ∈ kinds
  code : i.code = i.kind.code
  severity : i.severity = i.kind.severity
  autoFixable : i.autoFixable = i.kind.autoFixable
  path : i.kind ≠ .cycle → i.path = none

namespace Issue

variable {kinds : List IssueKind} {kind : IssueKind} {id message : String} {path : List String}

theorem isOf_ofNode (mem : kind ∈ kinds) : (ofNode kind id message).IsOf kinds :=
  ⟨mem, rfl, rfl, rfl, fun _ => rfl⟩

theorem isOf_ofEdge (mem : kind ∈ kinds) : (ofEdge kind id message).IsOf kinds :=
  ⟨mem, rfl, rfl, rfl, fun _ => rfl⟩

theorem isOf_ofCycle (mem : .cycle ∈ kinds) : (ofCycle path).IsOf kinds :=
  ⟨mem, rfl, rfl, rfl, fun other => absurd rfl other⟩

end Issue

/-- All issues are of the kinds. -/
def OfKinds (kinds : List IssueKind) (issues : List Issue) : Prop :=
  ∀ issue ∈ issues, issue.IsOf kinds

/-- Some issue is of the kind. -/
def Reported (kind : IssueKind) (issues : List Issue) : Prop := ∃ issue ∈ issues, issue.kind = kind

theorem reported_flatMap {α : Type} {kind : IssueKind} {items : List α} {issues : α → List Issue} :
    Reported kind (items.flatMap issues) ↔ ∃ item ∈ items, Reported kind (issues item) := by
  simp only [Reported, List.mem_flatMap]
  constructor
  · rintro ⟨issue, ⟨item, mem, reported⟩, of_kind⟩
    exact ⟨item, mem, issue, reported, of_kind⟩
  · rintro ⟨item, mem, issue, reported, of_kind⟩
    exact ⟨issue, ⟨item, mem, reported⟩, of_kind⟩

theorem reported_append {kind : IssueKind} {a b : List Issue} :
    Reported kind (a ++ b) ↔ Reported kind a ∨ Reported kind b := by
  simp only [Reported, List.mem_append, or_and_right, exists_or]

theorem any_kind_eq_false_iff {kind : IssueKind} {issues : List Issue} :
    issues.any (fun i => i.kind == kind) = false ↔ ¬ Reported kind issues := by
  simp [Reported]

namespace OfKinds

variable {kinds : List IssueKind} {issues : List Issue}

/-- Issues of mild kinds are not blocking. -/
theorem not_blocked (h : OfKinds kinds issues)
    (mild : ∀ kind ∈ kinds, (kind.severity == .error && !kind.autoFixable) = false) :
    ¬ Blocked issues := by
  intro blocked
  obtain ⟨issue, mem, blocking⟩ := List.any_eq_true.mp blocked
  have of := h issue mem
  rw [Issue.isBlocking, of.severity, of.autoFixable, mild _ of.mem] at blocking
  exact absurd blocking (by simp)

/-- Where one of the kinds alone is blocking, its reports are. -/
theorem blocked_iff (h : OfKinds kinds issues) {kind : IssueKind}
    (only : ∀ other ∈ kinds,
      (other.severity == .error && !other.autoFixable) = true ↔ other = kind) :
    Blocked issues ↔ Reported kind issues := by
  rw [Blocked, List.any_eq_true, Reported]
  refine exists_congr fun issue => and_congr_right fun mem => ?_
  have of := h issue mem
  rw [Issue.isBlocking, of.severity, of.autoFixable]
  exact only _ of.mem

theorem not_reported (h : OfKinds kinds issues) {kind : IssueKind} (off : kind ∉ kinds) :
    ¬ Reported kind issues := by
  intro reported
  obtain ⟨issue, mem, rfl⟩ := reported
  exact off (h issue mem).mem

theorem reported_iff {kind : IssueKind} (h : OfKinds [kind] issues) :
    Reported kind issues ↔ issues ≠ [] := by
  constructor
  · intro reported none
    obtain ⟨issue, mem, -⟩ := reported
    exact List.not_mem_nil (none ▸ mem)
  · intro some
    obtain ⟨issue, mem⟩ := List.exists_mem_of_ne_nil issues some
    exact ⟨issue, mem, List.mem_singleton.mp (h issue mem).mem⟩

/-- A filter by kinds keeps all issues if it keeps all of the kinds. -/
theorem filter_kind_eq_self (h : OfKinds kinds issues) {p : IssueKind → Bool}
    (all : ∀ kind ∈ kinds, p kind = true) : issues.filter (fun i => p i.kind) = issues := by
  rw [List.filter_eq_self]
  exact fun issue mem => all issue.kind (h issue mem).mem

/-- It keeps none if it keeps none of the kinds. -/
theorem filter_kind_eq_nil (h : OfKinds kinds issues) {p : IssueKind → Bool}
    (none : ∀ kind ∈ kinds, p kind = false) : issues.filter (fun i => p i.kind) = [] := by
  rw [List.filter_eq_nil_iff]
  intro issue mem kept
  rw [none issue.kind (h issue mem).mem] at kept
  cases kept

/-- No issue is of another kind. -/
theorem filter_eq_nil (h : OfKinds kinds issues) {kind : IssueKind} (off : kind ∉ kinds) :
    issues.filter (fun i => i.kind == kind) = [] :=
  h.filter_kind_eq_nil (p := (· == kind)) fun _ mem =>
    beq_eq_false_iff_ne.mpr fun same => off (same ▸ mem)

theorem filter_eq_ite (h : OfKinds kinds issues) (kind : IssueKind) :
    issues.filter (fun i => i.kind == kind) =
      if kind ∈ kinds then issues.filter (fun i => i.kind == kind) else [] := by
  split
  · rfl
  · next off => exact h.filter_eq_nil off

theorem filter_eq_self {kind : IssueKind} (h : OfKinds [kind] issues) :
    issues.filter (fun i => i.kind == kind) = issues :=
  h.filter_kind_eq_self (p := (· == kind)) fun _ mem => beq_iff_eq.mpr (List.mem_singleton.mp mem)

theorem filter_ne_eq_self (h : OfKinds kinds issues) {kind : IssueKind} (off : kind ∉ kinds) :
    issues.filter (fun i => i.kind != kind) = issues :=
  h.filter_kind_eq_self (p := (· != kind)) fun _ mem => bne_iff_ne.mpr fun same => off (same ▸ mem)

theorem filter_ne_eq_nil {kind : IssueKind} (h : OfKinds [kind] issues) :
    issues.filter (fun i => i.kind != kind) = [] :=
  h.filter_kind_eq_nil (p := (· != kind)) fun _ mem =>
    bne_eq_false_iff_eq.mpr (List.mem_singleton.mp mem)

/-- Only cycles have a path. -/
theorem path_eq_none (h : OfKinds kinds issues) (off : .cycle ∉ kinds) :
    ∀ issue ∈ issues, issue.path = none :=
  fun issue mem => (h issue mem).path fun cycle => off (cycle ▸ (h issue mem).mem)

/-- Repair clears none of the issues just if none of the kinds that it clears is among them. -/
theorem forall_not_autoFixable_iff (h : OfKinds kinds issues) :
    (∀ issue ∈ issues, issue.autoFixable = false) ↔
      ∀ kind ∈ kinds, kind.autoFixable = true → ¬ Reported kind issues := by
  constructor
  · intro none kind _ fixable reported
    obtain ⟨issue, mem, rfl⟩ := reported
    rw [← (h issue mem).autoFixable, none issue mem] at fixable
    exact absurd fixable (by simp)
  · intro none issue mem
    have of := h issue mem
    rw [of.autoFixable, ← Bool.not_eq_true]
    exact fun fixable => none issue.kind of.mem fixable ⟨issue, mem, rfl⟩

end OfKinds

/-! ### The kinds of each stage -/

section
variable (catalog : NodeCatalog) (nodes : List Node) (draft : Draft)

theorem ofKinds_completion : OfKinds [.unknownNodeType, .autoFilledConfig, .missingRequiredConfig]
    (Completion.ofNodes catalog nodes).issues := by
  intro issue mem
  obtain ⟨node, -, reported⟩ := List.mem_flatMap.mp mem
  unfold Completion.completeNode at reported
  split at reported
  · obtain rfl := List.mem_singleton.mp reported
    exact Issue.isOf_ofNode (by decide)
  · obtain ⟨field, -, ⟨value, -, rfl⟩ | ⟨-, rfl⟩⟩ := Completion.mem_fill reported
    · exact Issue.isOf_ofNode (by decide)
    · exact Issue.isOf_ofNode (by decide)

theorem ofKinds_supply : OfKinds [.missingRequiredInput, .ambiguousPortConnection]
    (Port.Supply.check catalog draft) := by
  intro issue mem
  obtain ⟨node, -, reported⟩ := List.mem_flatMap.mp mem
  rcases Port.Supply.mem_nodeIssues_iff.mp reported with ⟨-, port, -, rfl⟩ | ⟨-, port, -, -, rfl⟩
  · exact Issue.isOf_ofNode (by decide)
  · exact Issue.isOf_ofNode (by decide)

theorem ofKinds_ends : OfKinds
    [.structuralEdge, .unresolvedPort, .convertibleTypeMismatch, .incompatibleTypeMismatch]
    (Port.Ends.check catalog draft) := by
  intro issue mem
  obtain ⟨e, -, reported⟩ := List.mem_flatMap.mp mem
  rw [Port.Ends.mem_issues_iff] at reported
  cases ends : Port.Ends.ofEdge catalog draft e <;> rw [ends] at reported
  case dangling =>
    rcases reported with ⟨-, rfl⟩ | ⟨-, rfl⟩ <;> exact Issue.isOf_ofEdge (by decide)
  case unresolved => exact reported ▸ Issue.isOf_ofEdge (by decide)
  case resolved =>
    rcases reported with ⟨converter, -, rfl⟩ | ⟨-, rfl⟩ <;> exact Issue.isOf_ofEdge (by decide)

theorem ofKinds_cycles : OfKinds [.cycle] (Graph.Cycle.check draft) := by
  intro issue mem
  obtain ⟨path, -, rfl⟩ := List.mem_map.mp mem
  exact Issue.isOf_ofCycle (by decide)

end

namespace Stages

section
variable (catalog : NodeCatalog) (options : Options) (nodes : List Node) (edges : List Edge)

/-- Repairs report only what they did. -/
theorem ofKinds_repairs : OfKinds [.repairApplied] (run catalog options nodes edges).fed.issues ∧
    OfKinds [.repairApplied] (run catalog options nodes edges).converted.issues := by
  obtain ⟨autoFix, offset⟩ := options
  cases autoFix with
  | false => simp [run, repairIf, OfKinds]
  | true =>
    obtain ⟨feeds, detours, repairs⟩ := exists_repairs catalog nodes edges offset
    rw [repairs.feeding.issues, repairs.converting.issues]
    simp only [OfKinds, List.forall_mem_map]
    exact ⟨fun _ _ => Issue.isOf_ofNode (by decide), fun _ _ => Issue.isOf_ofNode (by decide)⟩

/-- The kinds that each stage reports. -/
structure Kinds (s : Stages) : Prop where
  completed : OfKinds [.unknownNodeType, .autoFilledConfig, .missingRequiredConfig]
    s.completed.issues
  inputs : OfKinds [.missingRequiredInput, .ambiguousPortConnection] s.inputs
  fed : OfKinds [.repairApplied] s.fed.issues
  ports : OfKinds
    [.structuralEdge, .unresolvedPort, .convertibleTypeMismatch, .incompatibleTypeMismatch] s.ports
  converted : OfKinds [.repairApplied] s.converted.issues
  cycles : OfKinds [.cycle] s.cycles

theorem kinds_run : (run catalog options nodes edges).Kinds where
  completed := ofKinds_completion catalog nodes
  inputs := ofKinds_supply catalog _
  fed := (ofKinds_repairs catalog options nodes edges).1
  ports := ofKinds_ends catalog _
  converted := (ofKinds_repairs catalog options nodes edges).2
  cycles := ofKinds_cycles _

/-- What is reported by the stages that report issues of a kind. -/
def reportsOf (s : Stages) : IssueKind → List Issue
  | .unknownNodeType | .autoFilledConfig | .missingRequiredConfig => s.completed.issues
  | .missingRequiredInput | .ambiguousPortConnection => s.inputs
  | .structuralEdge | .unresolvedPort | .convertibleTypeMismatch | .incompatibleTypeMismatch =>
    s.ports
  | .repairApplied => s.fed.issues ++ s.converted.issues
  | .cycle => s.cycles

theorem mem_issues_iff {s : Stages} {issue : Issue} : issue ∈ s.issues ↔
    issue ∈ s.completed.issues ∨ issue ∈ s.inputs ∨ issue ∈ s.fed.issues ∨ issue ∈ s.ports ∨
      issue ∈ s.converted.issues ∨ issue ∈ s.cycles := by
  simp only [issues, List.mem_append, or_assoc]

namespace Kinds

variable {s : Stages} (kinds : s.Kinds)
include kinds

/-- **Issues of a kind are reported by the stages that report such issues.** -/
theorem ofKind_eq (kind : IssueKind) :
    s.result.ofKind kind = (s.reportsOf kind).filter fun i => i.kind == kind := by
  simp only [Result.ofKind, result, issues, List.filter_append]
  rw [kinds.completed.filter_eq_ite, kinds.inputs.filter_eq_ite, kinds.fed.filter_eq_ite,
    kinds.ports.filter_eq_ite, kinds.converted.filter_eq_ite, kinds.cycles.filter_eq_ite]
  cases kind <;> simp [reportsOf]

/-- Every repair reports what it did, and nothing else reports a repair. -/
theorem ofKind_repairApplied :
    s.result.ofKind .repairApplied = s.fed.issues ++ s.converted.issues := by
  rw [kinds.ofKind_eq, reportsOf, List.filter_append, kinds.fed.filter_eq_self,
    kinds.converted.filter_eq_self]

/-- Cycles are reported by the last stage, and the others report everything else. -/
theorem filter_not_cycle : s.issues.filter (fun i => i.kind != .cycle) =
    s.completed.issues ++ s.inputs ++ s.fed.issues ++ s.ports ++ s.converted.issues := by
  simp only [issues, List.filter_append]
  rw [kinds.completed.filter_ne_eq_self (by decide), kinds.inputs.filter_ne_eq_self (by decide),
    kinds.fed.filter_ne_eq_self (by decide), kinds.ports.filter_ne_eq_self (by decide),
    kinds.converted.filter_ne_eq_self (by decide), kinds.cycles.filter_ne_eq_nil, List.append_nil]

end Kinds

/-- Only the port check reports edges that are not attached. -/
theorem mem_ports_of_structural {issue : Issue}
    (mem : issue ∈ (run catalog options nodes edges).issues) (kind : issue.kind = .structuralEdge) :
    issue ∈ (run catalog options nodes edges).ports := by
  have reported : issue ∈ (run catalog options nodes edges).result.ofKind .structuralEdge :=
    List.mem_filter.mpr ⟨mem, beq_iff_eq.mpr kind⟩
  rw [(kinds_run catalog options nodes edges).ofKind_eq] at reported
  exact (List.mem_filter.mp reported).1

/-- A run reports a cycle just if there is one. -/
theorem reported_cycle_iff : Reported .cycle (validate catalog options nodes edges).issues ↔
    Graph.Cycle.Cyclic (Arc (validate catalog options nodes edges).fixedEdges) := by
  have kinds := kinds_run catalog options nodes edges
  show Reported .cycle (run catalog options nodes edges).issues ↔ _
  rw [issues]
  simp only [reported_append, kinds.completed.not_reported (by decide : .cycle ∉ _),
    kinds.inputs.not_reported (by decide : .cycle ∉ _),
    kinds.fed.not_reported (by decide : .cycle ∉ _),
    kinds.ports.not_reported (by decide : .cycle ∉ _),
    kinds.converted.not_reported (by decide : .cycle ∉ _), false_or]
  rw [kinds.cycles.reported_iff]
  exact Graph.Cycle.check_ne_nil_iff _

/-- **A run finds a workflow valid** just if completion, the port check and the cycle check
report nothing blocking. -/
theorem valid_run_iff : (validate catalog options nodes edges).valid = true ↔
    ¬ Blocked (Completion.ofNodes catalog nodes).issues ∧
    ¬ Blocked (run catalog options nodes edges).ports ∧
    ¬ Graph.Cycle.Cyclic (Arc (validate catalog options nodes edges).fixedEdges) := by
  have verdict : (validate catalog options nodes edges).valid = true ↔
      ¬ Blocked (run catalog options nodes edges).issues := by
    simp [validate, result, Blocked]
  have kinds := kinds_run catalog options nodes edges
  rw [verdict, issues]
  simp only [blocked_append, kinds.inputs.not_blocked (by decide),
    kinds.fed.not_blocked (by decide), kinds.converted.not_blocked (by decide), or_false, not_or,
    and_assoc]
  exact and_congr_right fun _ => and_congr_right fun _ => not_congr (blocked_cycles _)

/-- Repair can clear nothing just if no entry was filled, no input is missing and no edge can
be converted. -/
theorem forall_not_autoFixable_iff :
    (∀ issue ∈ (run catalog options nodes edges).issues, issue.autoFixable = false) ↔
      ¬ Reported .autoFilledConfig (run catalog options nodes edges).completed.issues ∧
      ¬ Reported .missingRequiredInput (run catalog options nodes edges).inputs ∧
      ¬ Reported .convertibleTypeMismatch (run catalog options nodes edges).ports := by
  have kinds := kinds_run catalog options nodes edges
  simp only [issues, List.forall_mem_append, kinds.completed.forall_not_autoFixable_iff,
    kinds.inputs.forall_not_autoFixable_iff, kinds.fed.forall_not_autoFixable_iff,
    kinds.ports.forall_not_autoFixable_iff, kinds.converted.forall_not_autoFixable_iff,
    kinds.cycles.forall_not_autoFixable_iff]
  simp [IssueKind.autoFixable, and_assoc]

end

end Stages

end Dataflow
