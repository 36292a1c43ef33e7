import Dataflow.Port.Ends
import Dataflow.Port.Supply
import Dataflow.Proofs.Graph

/-! What the port checks report, and when.

`Supply.mem_nodeIssues_iff` says it of the inputs of one node, and `Ends.mem_issues_iff` of
the two ends of one edge. Missing inputs are reported of nodes without an edge to them
(`Supply.mem_check_missing_iff`). -/
namespace Dataflow.Port

/-- A node without incoming edges lacks its first required input, and nothing else; other
required inputs are ambiguous if no edge feeds them. -/
theorem Supply.mem_nodeIssues_iff {catalog : NodeCatalog} {node : Node} {edges : List Edge}
    {issue : Issue} : issue ∈ nodeIssues catalog node edges ↔
      (edges = [] ∧ ∃ port, (required catalog node.type).head? = some port ∧
        issue = missing node.id port) ∨
      (edges ≠ [] ∧ ∃ port ∈ required catalog node.type, (∀ e ∈ edges, feeds e port = false) ∧
        issue = ambiguous node.id port) := by
  unfold nodeIssues
  cases required catalog node.type with
  | nil => simp
  | cons port ports =>
    cases edges with
    | nil => simp
    | cons e edges =>
      simp only [List.isEmpty_cons, Bool.false_eq_true, if_false, List.mem_map, List.mem_filter,
        Bool.not_eq_true', List.any_eq_false, Bool.not_eq_true, reduceCtorEq, false_and, false_or,
        ne_eq, not_false_eq_true, true_and]
      constructor
      · intro reported
        obtain ⟨port, ⟨mem, unfed⟩, rfl⟩ := reported
        exact ⟨port, mem, unfed, rfl⟩
      · intro reported
        obtain ⟨port, mem, unfed, rfl⟩ := reported
        exact ⟨port, ⟨mem, unfed⟩, rfl⟩

/-- What is reported of the inputs of a node is about the node. -/
theorem Supply.eq_ofNode_of_mem_nodeIssues {catalog : NodeCatalog} {node : Node} {edges : List Edge}
    {issue : Issue} (mem : issue ∈ nodeIssues catalog node edges) :
    issue = .ofNode issue.kind node.id issue.message := by
  rcases mem_nodeIssues_iff.mp mem with ⟨-, port, -, rfl⟩ | ⟨-, port, -, -, rfl⟩
  · rfl
  · rfl

theorem Supply.nodeId_of_mem_nodeIssues {catalog : NodeCatalog} {node : Node} {edges : List Edge}
    {issue : Issue} (mem : issue ∈ nodeIssues catalog node edges) :
    issue.nodeId = some node.id :=
  congrArg Issue.nodeId (eq_ofNode_of_mem_nodeIssues mem)

/-- An edge feeds the port that it names, or any if it names none. -/
theorem Supply.feeds_eq (e : Edge) (port : PortDefinition) :
    feeds e port = e.targetHandle.all (· == port.name) := by
  unfold feeds
  cases e.targetHandle <;> rfl

/-- The inputs of a node are a matter of its id and type, and of the handles that edges lead
to. -/
theorem Supply.nodeIssues_congr {catalog : NodeCatalog} {node node' : Node}
    {edges edges' : List Edge}
    (id : node'.id = node.id) (type : node'.type = node.type)
    (handles : edges'.map (·.targetHandle) = edges.map (·.targetHandle)) :
    nodeIssues catalog node' edges' = nodeIssues catalog node edges := by
  have fed (port : PortDefinition) : edges'.any (feeds · port) = edges.any (feeds · port) := by
    have by_handles (edges : List Edge) : edges.any (feeds · port) =
        (edges.map (·.targetHandle)).any fun handle => handle.all (· == port.name) := by
      simp only [feeds_eq, List.any_map, Function.comp_def]
    rw [by_handles, by_handles, handles]
  have empty : edges'.isEmpty = edges.isEmpty := by
    rw [← List.isEmpty_map (f := fun e : Edge => e.targetHandle), handles, List.isEmpty_map]
  unfold nodeIssues
  simp only [id, type, fed, empty]

theorem Supply.mem_check_iff {catalog : NodeCatalog} {draft : Draft} {issue : Issue} :
    issue ∈ check catalog draft ↔ ∃ node ∈ draft.nodes.toList,
      issue ∈ nodeIssues catalog node (draft.edges.toList.filter fun e => e.target = node.id) := by
  simp only [check, List.mem_flatMap, getD_incoming]

/-- The missing inputs that are reported are the first ones of nodes without an edge to them. -/
theorem Supply.mem_check_missing_iff {catalog : NodeCatalog} {draft : Draft} {issue : Issue}
    (kind : issue.kind = .missingRequiredInput) :
    issue ∈ check catalog draft ↔ ∃ node ∈ draft.nodes.toList,
      indegree draft.edges.toList node.id = 0 ∧
        ∃ port, (required catalog node.type).head? = some port ∧ issue = missing node.id port := by
  have other (id : String) (port : PortDefinition) : issue ≠ ambiguous id port := by
    rintro rfl
    cases kind
  simp only [mem_check_iff, mem_nodeIssues_iff, indegree_eq_zero_iff, other, and_false,
    exists_false, or_false]

/-- The input that a node lacks: its first required one, if no edge leads to the node. -/
def Supply.lacking? (catalog : NodeCatalog) (edges : List Edge) (node : Node) :
    Option PortDefinition :=
  if indegree edges node.id = 0 then (required catalog node.type).head? else none

theorem Supply.lacking?_eq_some_iff {catalog : NodeCatalog} {edges : List Edge} {node : Node}
    {port : PortDefinition} : lacking? catalog edges node = some port ↔
      indegree edges node.id = 0 ∧ (required catalog node.type).head? = some port := by
  simp [lacking?]

/-- The missing inputs are reported node by node. -/
theorem Supply.filter_missing_check (catalog : NodeCatalog) (draft : Draft) :
    (check catalog draft).filter (fun i => i.kind == .missingRequiredInput) =
      draft.nodes.toList.filterMap fun node =>
        (lacking? catalog draft.edges.toList node).map (missing node.id) := by
  have others (id : String) (ports : List PortDefinition) :
      (ports.map (ambiguous id)).filter (fun i => i.kind == .missingRequiredInput) = [] := by
    rw [List.filter_map, List.map_eq_nil_iff, List.filter_eq_nil_iff]
    exact fun port _ => by simp [ambiguous]
  have one (node : Node) (edges : List Edge) :
      (nodeIssues catalog node (edges.filter fun e => e.target = node.id)).filter
        (fun i => i.kind == .missingRequiredInput) =
          ((lacking? catalog edges node).map (missing node.id)).toList := by
    simp only [nodeIssues, lacking?, indegree_eq_zero_iff]
    cases required catalog node.type with
    | nil => simp
    | cons port ports =>
      cases edges.filter fun e => e.target = node.id with
      | nil => simp [missing]
      | cons e later => exact others node.id _
  rw [check, List.filter_flatMap, List.filterMap_eq_flatMap_toList]
  refine List.flatMap_congr fun node _ => ?_
  rw [getD_incoming, one]

/-- A missing end is reported, or else a missing port, or else types that do not connect. -/
theorem Ends.mem_issues_iff {e : Edge} {ends : Ends} {issue : Issue} : issue ∈ issues e ends ↔
    match ends with
    | dangling sourceMissing targetMissing =>
      (sourceMissing = true ∧ issue = unknownSource e) ∨
        (targetMissing = true ∧ issue = unknownTarget e)
    | unresolved output input => issue = notFound e output input
    | resolved output input =>
      (∃ converter, Compatibility.resolve output.type input.type = .convertible converter ∧
        issue = convertible e output.type input.type converter) ∨
      (Compatibility.resolve output.type input.type = .incompatible ∧
        issue = incompatible e output.type input.type) := by
  cases ends with
  | dangling sourceMissing targetMissing =>
    cases sourceMissing <;> cases targetMissing <;> simp [issues]
  | unresolved output input => simp [issues]
  | resolved output input =>
    cases found : Compatibility.resolve output.type input.type <;> simp [issues, found]

/-- What is reported of the ends of an edge is about the edge. -/
theorem Ends.eq_ofEdge_of_mem_issues {e : Edge} {ends : Ends} {issue : Issue}
    (mem : issue ∈ issues e ends) : issue = .ofEdge issue.kind e.id issue.message := by
  rw [mem_issues_iff] at mem
  cases ends
  case dangling => rcases mem with ⟨-, rfl⟩ | ⟨-, rfl⟩ <;> rfl
  case unresolved => subst mem; rfl
  case resolved => rcases mem with ⟨converter, -, rfl⟩ | ⟨-, rfl⟩ <;> rfl

theorem Ends.edgeId_of_mem_issues {e : Edge} {ends : Ends} {issue : Issue}
    (mem : issue ∈ issues e ends) : issue.edgeId = some e.id :=
  congrArg Issue.edgeId (eq_ofEdge_of_mem_issues mem)

/-- Of ends that need a converter, that is all that is reported. -/
theorem Ends.kind_of_mem_issues {e : Edge} {ends : Ends} {type : String}
    (needed : ends.converter? = some type) {issue : Issue} (mem : issue ∈ issues e ends) :
    issue.kind = .convertibleTypeMismatch := by
  rw [mem_issues_iff] at mem
  cases ends
  case dangling => cases needed
  case unresolved => cases needed
  case resolved output input =>
    have found := Compatibility.converter?_eq_some_iff.mp needed
    rcases mem with ⟨converter, -, rfl⟩ | ⟨incompatible, -⟩
    · rfl
    · rw [found] at incompatible
      cases incompatible

end Dataflow.Port
