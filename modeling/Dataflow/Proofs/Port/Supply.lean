import Dataflow.Proofs.Port.Issues

/-! The input check without an index.

What the check reports of a node can be said by going through all edges (`reports`): of the edges
that lead to the node it only counts whether there is one, and whether each of them names another
port. So the check is a matter of which edges there are (`reports_congr`), not of their order or
number; and a node that an edge leads to never lacks an input, however many edges are added
(`sublist_missing`). -/
namespace Dataflow.Port.Supply

/-- The edge leads to the node. -/
def LeadsTo (e : Edge) (node : Node) : Prop := e.target = node.id

instance (e : Edge) (node : Node) : Decidable (LeadsTo e node) :=
  inferInstanceAs (Decidable (e.target = node.id))

/-- The edge names a port, and another one than this. -/
def NamesOther (e : Edge) (port : PortDefinition) : Prop :=
  ∃ handle ∈ e.targetHandle, handle ≠ port.name

instance (e : Edge) (port : PortDefinition) : Decidable (NamesOther e port) :=
  inferInstanceAs (Decidable (∃ handle ∈ e.targetHandle, handle ≠ port.name))

/-- What there is to report of a node's inputs, by going through all edges. -/
def reports (catalog : NodeCatalog) (edges : List Edge) (node : Node) : List Issue :=
  match catalog.definition node.type with
  | none => []
  | some d =>
    match d.requiredInputs with
    | [] => []
    | first :: others =>
      if ∀ e ∈ edges, ¬ LeadsTo e node then [missing node.id first]
      else
        ((first :: others).filter fun port =>
          ∀ e ∈ edges, LeadsTo e node → NamesOther e port).map (ambiguous node.id)

theorem feeds_eq_false_iff {e : Edge} {port : PortDefinition} :
    feeds e port = false ↔ NamesOther e port := by
  rw [feeds_eq, NamesOther]
  cases e.targetHandle <;> simp

/-- The index gives the edges that lead to a node, and these are all that counts. -/
theorem nodeIssues_incoming (catalog : NodeCatalog) (edges : List Edge) (node : Node) :
    nodeIssues catalog node ((incoming edges).getD node.id []) = reports catalog edges node := by
  have none_leads : (edges.filter fun e => e.target = node.id).isEmpty = true ↔
      ∀ e ∈ edges, ¬ LeadsTo e node := by
    simp [LeadsTo]
  have unfed (port : PortDefinition) :
      (!(edges.filter fun e => e.target = node.id).any (feeds · port)) =
        decide (∀ e ∈ edges, LeadsTo e node → NamesOther e port) := by
    rw [Bool.eq_iff_iff]
    simp [LeadsTo, ← feeds_eq_false_iff]
  rw [getD_incoming, nodeIssues, reports, required]
  cases catalog.definition node.type with
  | none => rfl
  | some d =>
    simp only [Option.map_some, Option.getD_some]
    cases d.requiredInputs with
    | nil => rfl
    | cons first others => simp only [none_leads, unfed]

theorem check_eq_flatMap (catalog : NodeCatalog) (d : Draft) :
    check catalog d = d.nodes.toList.flatMap (reports catalog d.edges.toList) := by
  rw [check]
  exact List.flatMap_congr fun node _ => nodeIssues_incoming catalog d.edges.toList node

/-- What is reported of a node is a matter of which edges there are. -/
theorem reports_congr (catalog : NodeCatalog) {edges edges' : List Edge}
    (same : ∀ e, e ∈ edges' ↔ e ∈ edges) (node : Node) :
    reports catalog edges' node = reports catalog edges node := by
  simp only [reports, same]

theorem check_congr (catalog : NodeCatalog) {d d' : Draft} (nodes : d'.nodes = d.nodes)
    (same : ∀ e, e ∈ d'.edges.toList ↔ e ∈ d.edges.toList) :
    check catalog d' = check catalog d := by
  rw [check_eq_flatMap, check_eq_flatMap, nodes]
  exact List.flatMap_congr fun node _ => reports_congr catalog same node

/-- The missing inputs are reported at the nodes that no edge leads to. -/
theorem filter_missing_eq (catalog : NodeCatalog) (d : Draft) :
    (check catalog d).filter (fun i => i.kind == .missingRequiredInput) =
      (d.nodes.toList.filter fun node => ∀ e ∈ d.edges.toList, ¬ LeadsTo e node).filterMap
        fun node => (required catalog node.type).head?.map (missing node.id) := by
  have unfed (node : Node) : indegree d.edges.toList node.id = 0 ↔
      ∀ e ∈ d.edges.toList, ¬ LeadsTo e node := by
    simp [indegree, List.count_eq_zero, LeadsTo]
  rw [filter_missing_check, List.filterMap_filter]
  refine List.filterMap_congr fun node _ => ?_
  simp only [lacking?, unfed, decide_eq_true_iff]
  split <;> rfl

/-- With more edges no more inputs are missing. -/
theorem sublist_missing (catalog : NodeCatalog) {d d' : Draft} (nodes : d'.nodes = d.nodes)
    (more : d.edges.toList ⊆ d'.edges.toList) :
    ((check catalog d').filter fun i => i.kind == .missingRequiredInput).Sublist
      ((check catalog d).filter fun i => i.kind == .missingRequiredInput) := by
  rw [filter_missing_eq, filter_missing_eq, nodes]
  refine (List.monotone_filter_right _ fun node unfed => ?_).filterMap _
  rw [decide_eq_true_iff] at unfed ⊢
  exact fun e mem => unfed e (more mem)

/-- **The input check reports what there is to report of each node** by all edges, node by node in
their order. The order of the edges makes no difference, and further edges make no input missing. -/
theorem check_reports (catalog : NodeCatalog) (d : Draft) :
    check catalog d = d.nodes.toList.flatMap (reports catalog d.edges.toList) ∧
      ∀ edges, (edges.Perm d.edges.toList →
        check catalog (d.replaceEdges edges) = check catalog d) ∧
      (d.edges.toList ⊆ edges →
        ((check catalog (d.replaceEdges edges)).filter
          fun i => i.kind == .missingRequiredInput).Sublist
        ((check catalog d).filter fun i => i.kind == .missingRequiredInput)) := by
  refine ⟨check_eq_flatMap catalog d, fun edges => ⟨fun reordered => ?_, fun more => ?_⟩⟩
  · exact check_congr catalog rfl fun e => reordered.mem_iff
  · exact sublist_missing catalog rfl more

/-- Two nodes with one id lack the port that no edge names, and the node `z` lacks its first input
until an edge without a handle leads to it. -/
theorem check_reports_shared :
    let port (name : String) : PortDefinition := ⟨name, "text", true⟩
    let catalog : Catalog := ⟨[⟨"joiner", ⟨[port "left", port "right"], []⟩, []⟩,
      ⟨"viewer", ⟨[], []⟩, []⟩], by decide⟩
    let node (id type : String) : Node := ⟨id, type, .origin, []⟩
    let edge (id target : String) (handle : Option String) : Edge := ⟨id, "v", target, none, handle⟩
    let d := Draft.ofLists [node "j" "joiner", node "v" "viewer", node "j" "joiner", node "u" "gone",
      node "z" "joiner"] [edge "a" "j" "left", edge "b" "ghost" none, edge "c" "j" "middle"]
    let reordered := [edge "c" "j" "middle", edge "a" "j" "left", edge "b" "ghost" none]
    let more := edge "e" "z" none :: reordered
    check catalog d = [ambiguous "j" (port "right"), ambiguous "j" (port "right"),
        missing "z" (port "left")] ∧
      reordered.Perm d.edges.toList ∧ check catalog (d.replaceEdges reordered) = check catalog d ∧
      d.edges.toList ⊆ more ∧
      ((check catalog (d.replaceEdges more)).filter
        fun i => i.kind == .missingRequiredInput).Sublist [missing "z" (port "left")] := by
  intro port catalog node edge d reordered more
  have reports : check catalog d = [ambiguous "j" (port "right"), ambiguous "j" (port "right"),
      missing "z" (port "left")] := by decide +kernel
  have perm : reordered.Perm d.edges.toList := by decide
  have subset : d.edges.toList ⊆ more := by decide
  refine ⟨reports, perm, ((check_reports catalog d).2 reordered).1 perm, subset, ?_⟩
  have sublist := ((check_reports catalog d).2 more).2 subset
  rw [reports] at sublist
  exact sublist

end Dataflow.Port.Supply
