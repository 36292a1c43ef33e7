import Dataflow.Draft
import Dataflow.Proofs.Entries

/-! The index of a draft.

An indexed draft knows of every id where the first node that carries it stands
(`Indexed`); drafts start so and every operation keeps it. Looking an id up then finds
the first node that carries it (`node?_eq_find?`). -/
namespace Dataflow.Draft

/-- The index holds the position of the first node of each id. -/
def Indexed (d : Draft) : Prop :=
  ∀ id, d.index[id]? = d.nodes.toList.findIdx? fun n => n.id == id

theorem getElem?_indexFrom (start : Nat) (index : Std.TreeMap String Nat) (nodes : List Node)
    (id : String) : (indexFrom start index nodes)[id]? =
      index[id]?.or ((nodes.findIdx? fun n => n.id == id).map (· + start)) := by
  induction nodes generalizing start index with
  | nil => simp [indexFrom]
  | cons node nodes ih =>
    rw [indexFrom, ih, Std.TreeMap.getElem?_insertIfNew, List.findIdx?_cons]
    simp only [Std.LawfulEqCmp.compare_eq_iff_eq, Std.TreeMap.mem_iff_isSome_getElem?]
    by_cases eq : node.id = id
    · subst eq
      cases index[node.id]? <;> simp
    · simp only [eq, false_and, if_false, beq_iff_eq, Option.map_map]
      congr 2
      funext i
      simp [Nat.add_comm 1 start, Nat.add_assoc]

theorem indexed_ofLists (nodes : List Node) (edges : List Edge) :
    Indexed (ofLists nodes edges) := by
  intro id
  simp [ofLists, getElem?_indexFrom]

/-- Where ids are different, an id is found on the one node that carries it. -/
theorem find?_id_eq_some_iff {nodes : List Node} (distinct : (nodes.map (·.id)).Nodup) {id : String}
    {node : Node} :
    (nodes.find? fun n => n.id == id) = some node ↔ node ∈ nodes ∧ node.id = id :=
  Entries.find?_key_eq_some_iff distinct

namespace Indexed

variable {d : Draft}

theorem insertNode (h : Indexed d) (node : Node) : Indexed (d.insertNode node) := by
  intro id
  simp only [Draft.insertNode, Std.TreeMap.getElem?_insertIfNew, Array.toList_push,
    List.findIdx?_append, Std.LawfulEqCmp.compare_eq_iff_eq, Std.TreeMap.mem_iff_isSome_getElem?,
    h id]
  by_cases eq : node.id = id
  · subst eq
    rw [h node.id]
    cases d.nodes.toList.findIdx? fun n => n.id == node.id <;> simp
  · simp [eq]

theorem freshNodeId (h : Indexed d) (type : String) : Indexed (d.freshNodeId type).2 := h

theorem freshEdgeId (h : Indexed d) : Indexed d.freshEdgeId.2 := h

theorem pushEdge (h : Indexed d) (edge : Edge) : Indexed (d.pushEdge edge) := h

theorem replaceEdges (h : Indexed d) (edges : List Edge) : Indexed (d.replaceEdges edges) := h

/-- **Looking an id up finds the first node that carries it.** -/
theorem node?_eq_find? (h : Indexed d) (id : String) :
    d.node? id = d.nodes.toList.find? fun n => n.id == id := by
  rw [node?, h id, List.find?_eq_bind_findIdx?_getElem?]
  cases d.nodes.toList.findIdx? fun n => n.id == id <;> simp

/-- Where ids are different, looking up the id of a node finds the node. -/
theorem node?_eq_some (h : Indexed d) (distinct : (d.nodes.toList.map (·.id)).Nodup) {node : Node}
    (mem : node ∈ d.nodes.toList) : d.node? node.id = some node := by
  rw [h.node?_eq_find?]
  exact (find?_id_eq_some_iff distinct).mpr ⟨mem, rfl⟩

/-- The index knows the ids that nodes carry. -/
theorem contains_index_iff (h : Indexed d) (id : String) :
    d.index.contains id = true ↔ ∃ node ∈ d.nodes.toList, node.id = id := by
  rw [Std.TreeMap.contains_eq_isSome_getElem?, h id, List.findIdx?_isSome, List.any_eq_true]
  simp only [beq_iff_eq]

end Indexed

end Dataflow.Draft
