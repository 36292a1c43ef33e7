import Dataflow.Proofs.Draft.History

/-! What a draft finds after any operations.

The nodes of a draft are those that it was made of and then those that were inserted, in order
(`Grown`); nothing but an insertion touches them or the index. The index stays right along every
run, so that each position in it is that of a node and looking an id up finds the first node that
carries it (`lookup_of_run`). -/
namespace Dataflow.Draft

/-- The node that an operation inserts, if it is an insertion. -/
def Op.inserted? : Op → Option Node
  | .insertNode node => some node
  | .freshNodeId _ | .freshEdgeId | .pushEdge _ | .replaceEdges _ => none

/-! ### Positions -/

namespace Indexed

variable {d : Draft} {id : String}

/-- Every position in the index is that of a node, and there its id is found. -/
theorem exists_getElem (h : Indexed d) {i : Nat} (found : d.index[id]? = some i) :
    ∃ lt : i < d.nodes.size, d.nodes[i].id = id ∧ d.node? id = some d.nodes[i] := by
  obtain ⟨lt, carries, -⟩ := List.findIdx?_eq_some_iff_getElem.mp ((h id).symm.trans found)
  refine ⟨lt, by simpa using carries, ?_⟩
  rw [node?, found]
  exact Array.getElem?_eq_getElem lt

/-- An id is not found just if no node carries it. -/
theorem node?_eq_none_iff (h : Indexed d) (id : String) :
    d.node? id = none ↔ ∀ node ∈ d.nodes, node.id ≠ id := by
  simp [h.node?_eq_find?]

end Indexed

/-! ### Growing drafts -/

/-- A draft to which some nodes were added, which are all remembered as inserted. -/
structure Grown (before after : Draft) (added : List Node) : Prop where
  nodes : after.nodes.toList = before.nodes.toList ++ added
  inserted : after.inserted.toList = before.inserted.toList ++ added

namespace Grown

variable {before between after : Draft} {a b : List Node}

theorem of_eq (nodes : after.nodes = before.nodes) (inserted : after.inserted = before.inserted) :
    Grown before after [] where
  nodes := by rw [nodes, List.append_nil]
  inserted := by rw [inserted, List.append_nil]

theorem trans (first : Grown before between a) (second : Grown between after b) :
    Grown before after (a ++ b) where
  nodes := by rw [second.nodes, first.nodes, List.append_assoc]
  inserted := by rw [second.inserted, first.inserted, List.append_assoc]

theorem insertNode (d : Draft) (node : Node) : Grown d (d.insertNode node) [node] :=
  ⟨Array.toList_push, Array.toList_push⟩

end Grown

namespace History

variable {h : History}

/-- Nothing but an insertion changes the nodes, or what is found. -/
theorem lookup_step {op : Op} (other : op.inserted? = none) :
    (h.step op).draft.nodes = h.draft.nodes ∧ (h.step op).draft.node? = h.draft.node? := by
  cases op with
  | insertNode node => exact absurd other (Option.some_ne_none node)
  | freshNodeId _ | freshEdgeId | pushEdge _ | replaceEdges _ => exact ⟨rfl, rfl⟩

theorem grown_step (op : Op) : Grown h.draft (h.step op).draft op.inserted?.toList := by
  cases op with
  | insertNode node => exact .insertNode h.draft node
  | freshNodeId _ | freshEdgeId | pushEdge _ | replaceEdges _ => exact .of_eq rfl rfl

theorem grown_run (ops : List Op) :
    Grown h.draft (h.run ops).draft (ops.filterMap Op.inserted?) := by
  induction ops generalizing h with
  | nil => exact .of_eq rfl rfl
  | cons op ops ih =>
    have first_and_rest : (op :: ops).filterMap Op.inserted? =
        op.inserted?.toList ++ ops.filterMap Op.inserted? := by
      rw [List.filterMap_cons]
      cases op.inserted? <;> rfl
    exact first_and_rest ▸ (grown_step op).trans ih

end History

/-- **A draft finds the first node that carries an id**, after any operations whatever: every
position in its index is that of a node with the id, and ids that no node carries are not found.
Its nodes are the given ones and then the inserted ones, in the order in which they were inserted,
and no operation but an insertion changes the nodes or what is found. -/
theorem lookup_of_run (nodes : List Node) (edges : List Edge) (ops : List Op) :
    let h := (History.start nodes edges).run ops
    let d := h.draft
    (∀ id i, d.index[id]? = some i →
      ∃ lt : i < d.nodes.size, d.nodes[i].id = id ∧ d.node? id = some d.nodes[i]) ∧
    (∀ id, d.node? id = d.nodes.toList.find? fun n => n.id == id) ∧
    (∀ id, d.node? id = none ↔ ∀ node ∈ d.nodes, node.id ≠ id) ∧
    d.nodes.toList = nodes ++ d.inserted.toList ∧
    d.inserted.toList = ops.filterMap Op.inserted? ∧
    ∀ op : Op, op.inserted? = none →
      (h.step op).draft.nodes = d.nodes ∧ (h.step op).draft.node? = d.node? := by
  intro h d
  have indexed : Indexed d := History.indexed_run (indexed_ofLists nodes edges) ops
  have grown : Grown (ofLists nodes edges) d (ops.filterMap Op.inserted?) :=
    (History.grown_run ops : Grown (History.start nodes edges).draft d _)
  have inserted : d.inserted.toList = ops.filterMap Op.inserted? :=
    grown.inserted.trans (List.nil_append _)
  have all : d.nodes.toList = nodes ++ d.inserted.toList := inserted ▸ grown.nodes
  exact ⟨fun id i => indexed.exists_getElem, indexed.node?_eq_find?, indexed.node?_eq_none_iff,
    all, inserted, fun op => History.lookup_step⟩

/-- The id of a given node is inserted again, and a node of an id that is handed out but not
inserted is looked for. -/
theorem lookup_of_run_duplicate :
    let nodes : List Node := [⟨"a", "fetch", .origin, []⟩, ⟨"b", "parse", .origin, []⟩]
    let ops : List Op := [.insertNode ⟨"a", "store", .origin, []⟩, .freshNodeId "parse"]
    let h := (History.start nodes []).run ops
    let d := h.draft
    d.index["a"]? = some 0 ∧ (d.node? "a").map (·.type) = some "fetch" ∧
      d.inserted.toList.map (·.type) = ["store"] ∧ d.node? "auto-parse-1" = none ∧
      (Op.replaceEdges []).inserted? = none ∧
      (h.step (.replaceEdges [])).draft.node? = d.node? := by
  intro nodes ops h d
  obtain ⟨position, -, absent, -, inserted, kept⟩ := lookup_of_run nodes [] ops
  have found : d.index["a"]? = some 0 := by decide +kernel
  have other : (Op.replaceEdges []).inserted? = none := rfl
  obtain ⟨lt, -, first⟩ := position "a" 0 found
  have carried : ∀ node ∈ d.nodes, node.id ≠ "auto-parse-1" := by decide +kernel
  exact ⟨found, by rw [first]; rfl, by rw [inserted]; rfl, (absent _).mpr carried, other,
    (kept _ other).2⟩

end Dataflow.Draft
