import Dataflow.Proofs.Draft.History
import Mathlib.Data.Finset.Card

/-! How long the search for a fresh id takes.

The search, as a loop without a bound, tries one number after the other until it comes to a free
one (`Tries`). A label with different numbers makes different ids, so wherever the loop starts it
passes over no more numbers than ids are taken (`Tries.le_succ_length`). It ends therefore, and the
search of a draft, whose fuel exceeds the number of ids by one, is this loop (`exists_tries`). The
index holds each id that nodes carry once (`Indexed.size_index`). -/
namespace Dataflow.Draft

/-- From `n` on so many numbers are tried, and the last of them is found: it is free, and those
before it are taken. -/
inductive Tries (taken : String → Bool) (label : String) : Nat → Nat → Nat → Prop where
  | found {n} (free : taken (numbered label n) = false) : Tries taken label n 1 n
  | next {n tries number} (passed : taken (numbered label n) = true)
      (rest : Tries taken label (n + 1) tries number) : Tries taken label n (tries + 1) number

section
variable {taken : String → Bool} {label : String} {n tries number fuel : Nat} {ids : List String}

/-- All numbers that are tried but the last are taken. -/
theorem Tries.taken_of_lt (h : Tries taken label n tries number) :
    ∀ m, n ≤ m → m + 1 < n + tries → taken (numbered label m) = true := by
  induction h with
  | found _ =>
    intro m first before
    omega
  | next passed _ ih =>
    intro m first before
    rcases Nat.eq_or_lt_of_le first with rfl | later
    · exact passed
    · exact ih m later (by omega)

/-- **At most one number more is tried than ids are taken.** -/
theorem Tries.le_succ_length (h : Tries taken label n tries number)
    (all : ∀ id, taken id = true → id ∈ ids) : tries ≤ ids.length + 1 := by
  have le : tries - 1 ≤ ids.length :=
    le_length_of_taken all fun m first before => h.taken_of_lt m first (by omega)
  omega

/-- A search with fuel that comes to a free number is the loop. -/
theorem exists_tries_of_free
    (free : taken (numbered label (firstFree taken label fuel n)) = false) :
    ∃ tries, Tries taken label n tries (firstFree taken label fuel n) := by
  fun_induction firstFree taken label fuel n with
  | case1 n => exact ⟨1, .found free⟩
  | case2 fuel n passed ih =>
    obtain ⟨tries, rest⟩ := ih free
    exact ⟨tries + 1, .next passed rest⟩
  | case3 fuel n _ => exact ⟨1, .found free⟩

/-- **The loop ends, wherever it starts**, and a search with fuel for one number more than ids are
taken finds what the loop does. -/
theorem exists_tries (label : String) (all : ∀ id, taken id = true → id ∈ ids) (n : Nat) :
    ∃ tries, tries ≤ ids.length + 1 ∧
      Tries taken label n tries (firstFree taken label (ids.length + 1) n) := by
  have free : taken (numbered label (firstFree taken label (ids.length + 1) n)) = false :=
    not_taken_firstFree ids all (Nat.lt_succ_self _)
  obtain ⟨tries, h⟩ := exists_tries_of_free free
  exact ⟨tries, h.le_succ_length all, h⟩

end

/-! ### The ids of a draft -/

section
variable (d : Draft)

theorem exists_tries_nodeNumber (type : String) : ∃ tries, tries ≤ d.index.size + 1 ∧
    Tries d.index.contains (nodeLabel type) (d.counter (nodeLabel type)) tries
      (d.nodeNumber type) := by
  have all (id : String) (known : d.index.contains id = true) : id ∈ d.index.keys :=
    Std.TreeMap.mem_keys.mpr (Std.TreeMap.mem_iff_contains.mpr known)
  have ends := exists_tries (nodeLabel type) all (d.counter (nodeLabel type))
  rwa [Std.TreeMap.length_keys] at ends

theorem exists_tries_edgeNumber : ∃ tries, tries ≤ d.takenEdgeIds.size + 1 ∧
    Tries d.takenEdgeIds.contains edgeLabel (d.counter edgeLabel) tries d.edgeNumber := by
  have all (id : String) (known : d.takenEdgeIds.contains id = true) :
      id ∈ d.takenEdgeIds.toList :=
    Std.TreeSet.mem_toList.mpr (Std.TreeSet.mem_iff_contains.mpr known)
  have ends := exists_tries edgeLabel all (d.counter edgeLabel)
  rwa [Std.TreeSet.length_toList] at ends

/-- The index is as large as there are different ids on nodes. -/
theorem Indexed.size_index {d : Draft} (h : Indexed d) :
    d.index.size = (d.nodes.toList.map (·.id)).toFinset.card := by
  have same : d.index.keys.toFinset = (d.nodes.toList.map (·.id)).toFinset := by
    ext id
    rw [List.mem_toFinset, List.mem_toFinset, Std.TreeMap.mem_keys, Std.TreeMap.mem_iff_contains,
      h.contains_index_iff, List.mem_map]
  rw [← same, List.toFinset_card_of_nodup Std.TreeMap.nodup_keys, Std.TreeMap.length_keys]

end

/-- **A fresh id is found after at most one try more than ids are taken.** After any operations, and
from whatever numbers the counters are set to, the search for the id of a node of any type ends
within one try more than there are different ids on nodes, and the search for the id of an edge
within one more than there are taken ids. -/
theorem tries_of_run (nodes : List Node) (edges : List Edge) (ops : List Op)
    (counters : Std.TreeMap String Nat) :
    let d := { ((History.start nodes edges).run ops).draft with nextNumber := counters }
    (∀ type, ∃ tries number,
      Tries d.index.contains (nodeLabel type) (counters.getD (nodeLabel type) 1) tries number ∧
      tries ≤ (d.nodes.toList.map (·.id)).toFinset.card + 1 ∧
      (d.freshNodeId type).1 = numbered (nodeLabel type) number) ∧
    ∃ tries number,
      Tries d.takenEdgeIds.contains edgeLabel (counters.getD edgeLabel 1) tries number ∧
      tries ≤ d.takenEdgeIds.size + 1 ∧
      d.freshEdgeId.1 = numbered edgeLabel number := by
  intro d
  have indexed : Indexed d :=
    (History.indexed_run (indexed_ofLists nodes edges) ops :
      Indexed ((History.start nodes edges).run ops).draft)
  refine ⟨fun type => ?_, ?_⟩
  · obtain ⟨tries, le, ends⟩ := d.exists_tries_nodeNumber type
    exact ⟨tries, d.nodeNumber type, ends, indexed.size_index ▸ le, rfl⟩
  · obtain ⟨tries, le, ends⟩ := d.exists_tries_edgeNumber
    exact ⟨tries, d.edgeNumber, ends, le, rfl⟩

end Dataflow.Draft
