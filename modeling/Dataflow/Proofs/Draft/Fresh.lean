import Dataflow.Proofs.Draft.Lookup
import Mathlib.Data.List.Perm.Subperm
import Mathlib.Data.List.Nodup
import Std.Data.String.ToNat

/-! Fresh ids.

The search for a free number ends before its fuel does: it would have to go past more
numbered ids than are taken (`not_taken_firstFree`). So no node carries a fresh node id
(`Indexed.not_mem_freshNodeId`), and nodes that are inserted under fresh ids stay apart
from all others (`Apart`). Fresh edge ids are taken when they are handed out, so that no id is
handed out twice (`HandedOut`). -/
namespace Dataflow.Draft

theorem numbered_injective (label : String) : Function.Injective (numbered label) := by
  intro m n eq
  have tail : (label ++ "-") ++ m.repr = (label ++ "-") ++ n.repr := eq
  exact Nat.repr_injective ((String.append_right_inj _).mp tail)

/-- The search stops at a number that is free, or where its fuel ends. -/
theorem not_taken_or_eq (taken : String → Bool) (label : String) (fuel n : Nat) :
    taken (numbered label (firstFree taken label fuel n)) = false ∨
      firstFree taken label fuel n = n + fuel := by
  fun_induction firstFree taken label fuel n with
  | case1 n => exact .inr rfl
  | case2 fuel n _ ih => exact ih.imp_right fun eq => by omega
  | case3 fuel n free => exact .inl (by simpa using free)

/-- No more numbers in a row are taken than ids are. -/
theorem le_length_of_taken {taken : String → Bool} {label : String} {n count : Nat}
    {ids : List String} (all : ∀ id, taken id = true → id ∈ ids)
    (row : ∀ m, n ≤ m → m < n + count → taken (numbered label m) = true) : count ≤ ids.length := by
  have passed : (List.range' n count).map (numbered label) ⊆ ids := by
    intro id mem
    obtain ⟨m, range, rfl⟩ := List.mem_map.mp mem
    rw [List.mem_range'_1] at range
    exact all _ (row m range.1 range.2)
  have distinct : ((List.range' n count).map (numbered label)).Nodup :=
    (List.nodup_range' 1).map (numbered_injective label)
  simpa using (List.subperm_of_subset distinct passed).length_le

/-- **The search finds a free number**, if its fuel exceeds the number of ids taken. -/
theorem not_taken_firstFree {taken : String → Bool} {label : String} {fuel n : Nat}
    (ids : List String) (all : ∀ id, taken id = true → id ∈ ids) (enough : ids.length < fuel) :
    taken (numbered label (firstFree taken label fuel n)) = false := by
  refine (not_taken_or_eq taken label fuel n).resolve_right fun eq => ?_
  have le : fuel ≤ ids.length :=
    le_length_of_taken all fun m first before => taken_of_lt_firstFree first (eq ▸ before)
  omega

theorem not_contains_freshNodeId (d : Draft) (type : String) :
    d.index.contains (d.freshNodeId type).1 = false := by
  apply not_taken_firstFree d.index.keys
  · intro id taken
    rw [Std.TreeMap.mem_keys, Std.TreeMap.mem_iff_contains]
    exact taken
  · rw [Std.TreeMap.length_keys]
    exact Nat.lt_succ_self _

/-- No node carries a fresh id. -/
theorem Indexed.not_mem_freshNodeId {d : Draft} (h : Indexed d) (type : String) :
    ∀ node ∈ d.nodes.toList, node.id ≠ (d.freshNodeId type).1 := by
  intro node mem eq
  have taken := (h.contains_index_iff _).mpr ⟨node, mem, eq⟩
  rw [not_contains_freshNodeId] at taken
  exact absurd taken (by simp)

/-! ### Nodes apart from others -/

/-- Nodes with ids of their own, which no other node carries. -/
structure Apart (others nodes : List Node) : Prop where
  nodup : (nodes.map (·.id)).Nodup
  off : ∀ node ∈ nodes, ∀ other ∈ others, other.id ≠ node.id

namespace Apart

variable {others a b : List Node}

theorem nil : Apart others [] := ⟨.nil, by simp⟩

/-- What is added apart from the nodes added before. -/
theorem append (first : Apart others a) (second : Apart (others ++ a) b) :
    Apart others (a ++ b) where
  nodup := by
    rw [List.map_append, List.nodup_append]
    refine ⟨first.nodup, second.nodup, ?_⟩
    intro c ha c' hb same
    obtain ⟨x, x_mem, rfl⟩ := List.mem_map.mp ha
    obtain ⟨y, y_mem, rfl⟩ := List.mem_map.mp hb
    exact second.off y y_mem x (List.mem_append_right _ x_mem) same
  off := by
    intro node mem other other_mem
    rcases List.mem_append.mp mem with mem | mem
    · exact first.off node mem other other_mem
    · exact second.off node mem other (List.mem_append_left _ other_mem)

theorem not_mem (h : Apart others a) : ∀ id ∈ others.map (·.id), id ∉ a.map (·.id) := by
  intro id mem new
  obtain ⟨other, other_mem, rfl⟩ := List.mem_map.mp mem
  obtain ⟨node, node_mem, eq⟩ := List.mem_map.mp new
  exact h.off node node_mem other other_mem eq.symm

theorem singleton {node : Node} (off : ∀ other ∈ others, other.id ≠ node.id) :
    Apart others [node] :=
  ⟨List.nodup_singleton _, by simpa using off⟩

end Apart

/-! ### Ids handed out to edges -/

/-- The ids that were handed out while more and more were taken: they are different, none of
them was taken before, and nothing else was taken since. -/
structure HandedOut (before after : Std.TreeSet String) (ids : List String) : Prop where
  nodup : ids.Nodup
  fresh : ∀ id ∈ ids, id ∉ before
  taken : ∀ id, id ∈ after ↔ id ∈ before ∨ id ∈ ids

namespace HandedOut

variable {before between after : Std.TreeSet String} {ids more : List String}

theorem refl (taken : Std.TreeSet String) : HandedOut taken taken [] := ⟨.nil, by simp, by simp⟩

/-- What is handed out later is taken by then. -/
theorem trans (first : HandedOut before between ids) (second : HandedOut between after more) :
    HandedOut before after (ids ++ more) where
  nodup := by
    refine List.nodup_append'.mpr ⟨first.nodup, second.nodup, fun id mem again => ?_⟩
    exact second.fresh id again ((first.taken id).mpr (.inr mem))
  fresh := by
    rw [List.forall_mem_append]
    refine ⟨first.fresh, fun id mem old => ?_⟩
    exact second.fresh id mem ((first.taken id).mpr (.inl old))
  taken := fun id => by rw [second.taken, first.taken, List.mem_append, or_assoc]

/-- An id that was handed out is taken already when its edge is put in. -/
theorem insert (h : HandedOut before after ids) {id : String} (mem : id ∈ ids) :
    HandedOut before (after.insert id) ids where
  nodup := h.nodup
  fresh := h.fresh
  taken := fun other => by
    rw [Std.TreeSet.mem_insert, Std.LawfulEqCmp.compare_eq_iff_eq, h.taken]
    refine or_iff_right_of_imp fun same => ?_
    exact .inr (same ▸ mem)

end HandedOut

theorem mem_foldl_insert (ids : List String) (set : Std.TreeSet String) (id : String) :
    id ∈ ids.foldl (fun ids id => ids.insert id) set ↔ id ∈ ids ∨ id ∈ set := by
  induction ids generalizing set with
  | nil => simp
  | cons first ids ih =>
    rw [List.foldl_cons, ih, Std.TreeSet.mem_insert, Std.LawfulEqCmp.compare_eq_iff_eq,
      List.mem_cons, ← or_assoc, or_comm (a := id ∈ ids), eq_comm]

/-- At first the ids of the given edges are taken. -/
theorem mem_takenEdgeIds_ofLists {nodes : List Node} {edges : List Edge} {id : String} :
    id ∈ (ofLists nodes edges).takenEdgeIds ↔ id ∈ edges.map (·.id) := by
  have folded : (ofLists nodes edges).takenEdgeIds =
      (edges.map (·.id)).foldl (fun ids id => ids.insert id) ∅ := by
    rw [List.foldl_map]
    rfl
  rw [folded, mem_foldl_insert]
  simp

theorem not_contains_freshEdgeId (d : Draft) :
    d.takenEdgeIds.contains d.freshEdgeId.1 = false := by
  apply not_taken_firstFree d.takenEdgeIds.toList
  · intro id taken
    rw [Std.TreeSet.mem_toList, Std.TreeSet.mem_iff_contains]
    exact taken
  · rw [Std.TreeSet.length_toList]
    exact Nat.lt_succ_self _

/-- **A fresh edge id was not taken**, and is from then on. -/
theorem handedOut_freshEdgeId (d : Draft) :
    HandedOut d.takenEdgeIds d.freshEdgeId.2.takenEdgeIds [d.freshEdgeId.1] where
  nodup := List.nodup_singleton _
  fresh := by
    intro id mem taken
    obtain rfl := List.mem_singleton.mp mem
    rw [Std.TreeSet.mem_iff_contains, not_contains_freshEdgeId] at taken
    exact absurd taken (by simp)
  taken := fun id => by
    show id ∈ d.takenEdgeIds.insert d.freshEdgeId.1 ↔ _
    rw [Std.TreeSet.mem_insert, Std.LawfulEqCmp.compare_eq_iff_eq, List.mem_singleton, or_comm,
      eq_comm]

end Dataflow.Draft
