import Dataflow.Proofs.Repair.Agreement

/-! What the order of nodes and edges makes no difference to.

Where ids are different, an id finds the same node in any order (`find?_perm`), so an edge has
the same ends (`Port.Ends.perm_check`). The inputs of a node are a matter of which edges lead to
it (`Port.Supply.perm_check`), and completion looks at one node at a time. Each of these stages
reports the same in another order. Of cycles the search may find others, starting elsewhere and
going on another way, but it finds one just if the arcs have one, and arcs are in no order
(`arc_perm`). -/
namespace Dataflow

open Dataflow.Graph
open Stages (draft)

section
variable {nodes nodes' : List Node} (reordered : nodes'.Perm nodes) {edges edges' : List Edge}
  (rerouted : edges'.Perm edges)

include reordered in
/-- Where ids are different, an id finds the same node in any order. -/
theorem find?_perm (distinct : (nodes.map (·.id)).Nodup) (id : String) :
    (nodes'.find? fun n => n.id == id) = nodes.find? fun n => n.id == id := by
  have distinct' : (nodes'.map (·.id)).Nodup := (reordered.map _).nodup_iff.mpr distinct
  refine Option.ext fun node => ?_
  rw [Draft.find?_id_eq_some_iff distinct, Draft.find?_id_eq_some_iff distinct',
    reordered.mem_iff]

include rerouted in
theorem arc_perm : Arc edges' = Arc edges := by
  funext u v
  simp only [Arc, rerouted.mem_iff]

theorem blocked_perm {a b : List Issue} (h : a.Perm b) : Blocked a ↔ Blocked b := by
  rw [Blocked, Blocked, h.any_eq]

/-! ### Stages -/

variable (catalog : NodeCatalog)

include reordered in
theorem Completion.perm_issues :
    (ofNodes catalog nodes').issues.Perm (ofNodes catalog nodes).issues :=
  reordered.flatMap_right _

include rerouted in
/-- The inputs of a node are a matter of which edges lead to it. -/
theorem Port.Supply.nodeIssues_perm (node : Node) :
    nodeIssues catalog node edges' = nodeIssues catalog node edges := by
  simp only [nodeIssues, rerouted.isEmpty_eq, rerouted.any_eq]

include reordered rerouted in
theorem Port.Supply.perm_check : (check catalog (draft catalog nodes' edges')).Perm
    (check catalog (draft catalog nodes edges)) := by
  have completed := reordered.map fun n => (Completion.completeNode catalog n).1
  simp only [check, getD_incoming]
  refine completed.flatMap fun node _ => .of_eq ?_
  exact nodeIssues_perm (rerouted.filter _) catalog node

include reordered rerouted in
theorem Port.Ends.perm_check (distinct : (nodes.map (·.id)).Nodup) :
    (check catalog (draft catalog nodes' edges')).Perm
      (check catalog (draft catalog nodes edges)) := by
  refine List.Perm.flatMap rerouted fun e _ => .of_eq ?_
  have found (id : String) : (draft catalog nodes' edges').node? id =
      (draft catalog nodes edges).node? id := by
    rw [Stages.node?_draft, Stages.node?_draft, find?_perm reordered distinct]
  rw [ofEdge_congr (congrArg _ (found e.source)) (congrArg _ (found e.target))]

end

/-! ### Runs -/

/-- **Reports do not depend on the order of nodes and edges**, if all nodes have different ids.
Without repair, a run on the same nodes and edges in another order comes to the same verdict. It
completes each node as before, and leaves them in the order that it was given; but for cycles it
reports the same in another order; and it reports a cycle just if there was one reported before. -/
theorem order_independent (catalog : NodeCatalog) (offset : Float) {nodes nodes' : List Node}
    {edges edges' : List Edge} (distinct : (nodes.map (·.id)).Nodup)
    (reordered : nodes'.Perm nodes) (rerouted : edges'.Perm edges) :
    let result := validate catalog ⟨false, offset⟩ nodes edges
    let result' := validate catalog ⟨false, offset⟩ nodes' edges'
    result'.valid = result.valid ∧
      (result.fixedNodes = nodes.map fun node => (Completion.completeNode catalog node).1) ∧
      (result'.fixedNodes = nodes'.map fun node => (Completion.completeNode catalog node).1) ∧
      result'.besidesCycles.Perm result.besidesCycles ∧
      (Reported .cycle result'.issues ↔ Reported .cycle result.issues) := by
  intro result result'
  have completed := Completion.perm_issues reordered catalog
  have inputs := Port.Supply.perm_check reordered rerouted catalog
  have ports := Port.Ends.perm_check reordered rerouted catalog distinct
  have arcs : Arc result'.fixedEdges = Arc result.fixedEdges := by
    rw [Stages.fixedEdges_plain, Stages.fixedEdges_plain, arc_perm rerouted]
  refine ⟨?_, Stages.fixedNodes_plain catalog nodes edges offset,
    Stages.fixedNodes_plain catalog nodes' edges' offset, ?_, ?_⟩
  · rw [Bool.eq_iff_iff, Stages.valid_run_iff, Stages.valid_run_iff, Stages.ports_plain,
      Stages.ports_plain, blocked_perm completed, blocked_perm ports, arcs]
  · have before : result.besidesCycles = _ := Stages.besidesCycles_plain
    have after : result'.besidesCycles = _ := Stages.besidesCycles_plain
    rw [before, after]
    exact (completed.append inputs).append ports
  · rw [Stages.reported_cycle_iff, Stages.reported_cycle_iff, arcs]

/-- The nodes of a loop the other way round: the loop is found from the other node on. -/
theorem order_independent_loop :
    let nodes : List Node := [⟨"a", "note", .origin, []⟩, ⟨"b", "memo", .origin, []⟩]
    let edges : List Edge := [⟨"ab", "a", "b", none, none⟩, ⟨"ba", "b", "a", none, none⟩]
    let result := validate Catalog.empty ⟨false, 250⟩ nodes edges
    let result' := validate Catalog.empty ⟨false, 250⟩ nodes.reverse edges.reverse
    Cycle.cyclePaths result.issues = [["a", "b", "a"]] ∧
      Cycle.cyclePaths result'.issues = [["b", "a", "b"]] ∧
      result.valid = false ∧ result'.valid = result.valid ∧
      result'.besidesCycles.Perm result.besidesCycles := by
  intro nodes edges result result'
  have same := order_independent Catalog.empty 250 (by decide : (nodes.map (·.id)).Nodup)
    nodes.reverse_perm edges.reverse_perm
  exact ⟨by decide +kernel, by decide +kernel, by decide +kernel, same.1, same.2.2.2.1⟩

end Dataflow
