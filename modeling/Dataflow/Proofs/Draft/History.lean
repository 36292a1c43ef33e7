import Dataflow.Proofs.Draft.Fresh
import Mathlib.Order.Bounds.Defs

/-! What has happened to a draft, and the ids that it hands out.

A history is a draft together with the ids that it has handed out and the edges that have been in
it (`History`); a run applies operations one after the other. Along every run the counters stay
ahead of the ids that were handed out (`Accounted`), and a label with a number can be read in one
way only (`numbered_inj`), so that ids of different labels never meet. As long as no node of type
`edge` has been asked for, a counter passes no number that is free (`Thrifty`), and so the number
that is handed out is the least free one. -/
namespace Dataflow.Draft

/-! ### Labels with numbers -/

/-- Two texts that are cut at their last dash have the same parts if they are the same. -/
theorem eq_of_last_dash {a b x y : List Char} (eq : a ++ '-' :: x = b ++ '-' :: y) (hx : '-' ∉ x)
    (hy : '-' ∉ y) : a = b ∧ x = y := by
  rcases List.append_eq_append_iff.mp eq with ⟨c, rfl, rest⟩ | ⟨c, rfl, rest⟩
  · cases c with
    | nil => exact ⟨by simp, (List.cons.inj rest).2⟩
    | cons d c =>
      obtain ⟨-, rfl⟩ := List.cons.inj rest
      exact absurd (by simp) hx
  · cases c with
    | nil => exact ⟨by simp, (List.cons.inj rest).2.symm⟩
    | cons d c =>
      obtain ⟨-, rfl⟩ := List.cons.inj rest
      exact absurd (by simp) hy

theorem dash_not_mem_repr (n : Nat) : '-' ∉ n.repr.toList := by
  rw [Nat.toList_repr]
  intro mem
  have digit := Nat.isDigit_of_mem_toDigits (by decide) (by decide) mem
  exact absurd digit (by decide)

/-- A label with a number is read in one way only: the number begins behind the last dash. -/
theorem numbered_inj {a b : String} {m n : Nat} (eq : numbered a m = numbered b n) :
    a = b ∧ m = n := by
  have texts : a.toList ++ '-' :: m.repr.toList = b.toList ++ '-' :: n.repr.toList := by
    have parts : ((a ++ "-") ++ m.repr).toList = ((b ++ "-") ++ n.repr).toList :=
      congrArg String.toList eq
    have dash : "-".toList = ['-'] := by decide
    simpa only [String.toList_append, List.append_assoc, dash, List.singleton_append] using parts
  obtain ⟨label, number⟩ := eq_of_last_dash texts (dash_not_mem_repr m) (dash_not_mem_repr n)
  exact ⟨String.toList_inj.mp label, Nat.repr_injective (String.toList_inj.mp number)⟩

theorem nodeLabel_inj {a b : String} : nodeLabel a = nodeLabel b ↔ a = b :=
  String.append_right_inj "auto-"

/-- Only nodes of type `edge` share a label with edges. -/
theorem nodeLabel_eq_edgeLabel_iff {type : String} :
    nodeLabel type = edgeLabel ↔ type = "edge" :=
  nodeLabel_inj (b := "edge")

/-! ### Numbers handed out -/

section
variable (d : Draft)

/-- The number of the next node of a type. -/
def nodeNumber (type : String) : Nat :=
  firstFree d.index.contains (nodeLabel type) (d.index.size + 1) (d.counter (nodeLabel type))

/-- The number of the next edge. -/
def edgeNumber : Nat :=
  firstFree d.takenEdgeIds.contains edgeLabel (d.takenEdgeIds.size + 1) (d.counter edgeLabel)

theorem freshNodeId_fst (type : String) :
    (d.freshNodeId type).1 = numbered (nodeLabel type) (d.nodeNumber type) := rfl

theorem counter_le_nodeNumber (type : String) : d.counter (nodeLabel type) ≤ d.nodeNumber type :=
  le_firstFree ..

theorem counter_le_edgeNumber : d.counter edgeLabel ≤ d.edgeNumber := le_firstFree ..

theorem counter_freshNodeId (type label : String) : (d.freshNodeId type).2.counter label =
    if nodeLabel type = label then d.nodeNumber type + 1 else d.counter label := by
  simp only [counter, freshNodeId, Std.TreeMap.getD_insert, Std.LawfulEqCmp.compare_eq_iff_eq]
  rfl

theorem counter_freshEdgeId (label : String) : d.freshEdgeId.2.counter label =
    if edgeLabel = label then d.edgeNumber + 1 else d.counter label := by
  simp only [counter, freshEdgeId, Std.TreeMap.getD_insert, Std.LawfulEqCmp.compare_eq_iff_eq]
  rfl

/-- Counters only go up. -/
theorem counter_le_freshNodeId (type label : String) :
    d.counter label ≤ (d.freshNodeId type).2.counter label := by
  rw [counter_freshNodeId]
  split
  · next same => exact Nat.le_succ_of_le (same ▸ d.counter_le_nodeNumber type)
  · exact Nat.le_refl _

theorem counter_le_freshEdgeId (label : String) :
    d.counter label ≤ d.freshEdgeId.2.counter label := by
  rw [counter_freshEdgeId]
  split
  · next same => exact Nat.le_succ_of_le (same ▸ d.counter_le_edgeNumber)
  · exact Nat.le_refl _

end

/-! ### Histories -/

/-- What is done to a draft. -/
inductive Op where
  | freshNodeId (type : String)
  | freshEdgeId
  | insertNode (node : Node)
  | pushEdge (edge : Edge)
  | replaceEdges (edges : List Edge)

/-- A draft and what has happened to it. -/
structure History where
  draft : Draft
  /-- The ids that were handed out for nodes. -/
  nodeIds : List String
  /-- The ids that were handed out for edges. -/
  edgeIds : List String
  /-- The edges that are in the draft or have been in it. -/
  edges : List Edge

namespace History

/-- Nothing has happened yet to some nodes and edges. -/
def start (nodes : List Node) (edges : List Edge) : History := ⟨ofLists nodes edges, [], [], edges⟩

def step (h : History) : Op → History
  | .freshNodeId type =>
    let (id, draft) := h.draft.freshNodeId type
    { h with draft, nodeIds := h.nodeIds ++ [id] }
  | .freshEdgeId =>
    let (id, draft) := h.draft.freshEdgeId
    { h with draft, edgeIds := h.edgeIds ++ [id] }
  | .insertNode node => { h with draft := h.draft.insertNode node }
  | .pushEdge edge => { h with draft := h.draft.pushEdge edge, edges := h.edges ++ [edge] }
  | .replaceEdges edges =>
    { h with draft := h.draft.replaceEdges edges, edges := h.edges ++ edges }

/-- Operations one after the other. -/
def run (h : History) (ops : List Op) : History := ops.foldl step h

/-- Edges may only be replaced by edges with ids from before, or with ids handed out for edges. -/
def Allows (h : History) : Op → Prop
  | .replaceEdges edges => ∀ e ∈ edges, e.id ∈ h.edges.map (·.id) ∨ e.id ∈ h.edgeIds
  | _ => True

/-- Operations that are allowed when it is their turn. -/
def AllowsAll (h : History) : List Op → Prop
  | [] => True
  | op :: ops => h.Allows op ∧ (h.step op).AllowsAll ops

instance (h : History) : (op : Op) → Decidable (h.Allows op)
  | .freshNodeId _ | .freshEdgeId | .insertNode _ | .pushEdge _ => .isTrue trivial
  | .replaceEdges edges =>
    inferInstanceAs (Decidable (∀ e ∈ edges, e.id ∈ h.edges.map (·.id) ∨ e.id ∈ h.edgeIds))

instance decidableAllowsAll (h : History) : (ops : List Op) → Decidable (h.AllowsAll ops)
  | [] => .isTrue trivial
  | op :: ops =>
    have := decidableAllowsAll (h.step op) ops
    inferInstanceAs (Decidable (h.Allows op ∧ (h.step op).AllowsAll ops))

/-- An id that no node carries, and that was not handed out for a node yet. -/
def NodeIdFree (h : History) (id : String) : Prop :=
  (∀ node ∈ h.draft.nodes.toList, node.id ≠ id) ∧ id ∉ h.nodeIds

/-- An id that no edge ever carried, and that was not handed out for an edge yet. -/
def EdgeIdFree (h : History) (id : String) : Prop :=
  (∀ e ∈ h.edges, e.id ≠ id) ∧ id ∉ h.edgeIds

theorem indexed_step {h : History} (indexed : Indexed h.draft) (op : Op) :
    Indexed (h.step op).draft := by
  cases op with
  | freshNodeId type => exact indexed.freshNodeId type
  | freshEdgeId => exact indexed.freshEdgeId
  | insertNode node => exact indexed.insertNode node
  | pushEdge edge => exact indexed.pushEdge edge
  | replaceEdges edges => exact indexed.replaceEdges edges

/-- After any operations, looking an id up finds the first node that carries it. -/
theorem indexed_run {h : History} (indexed : Indexed h.draft) (ops : List Op) :
    Indexed (h.run ops).draft := by
  induction ops generalizing h with
  | nil => exact indexed
  | cons op ops ih => exact ih (indexed_step indexed op)

/-- The draft keeps account of what has happened to it. -/
structure Accounted (h : History) : Prop where
  indexed : Indexed h.draft
  counters : ∀ label, 1 ≤ h.draft.counter label
  nodeIds : ∀ id ∈ h.nodeIds, ∃ type n,
    id = numbered (nodeLabel type) n ∧ n < h.draft.counter (nodeLabel type)
  edgeIds : ∀ id, id ∈ h.draft.takenEdgeIds ↔ id ∈ h.edges.map (·.id) ∨ id ∈ h.edgeIds

/-- No counter has passed a free number. -/
structure Thrifty (h : History) : Prop where
  nodes : ∀ type, type ≠ "edge" → ∀ n, 1 ≤ n → n < h.draft.counter (nodeLabel type) →
    ¬ h.NodeIdFree (numbered (nodeLabel type) n)
  edges : ∀ n, 1 ≤ n → n < h.draft.counter edgeLabel → ¬ h.EdgeIdFree (numbered edgeLabel n)

theorem accounted_start (nodes : List Node) (edges : List Edge) :
    (start nodes edges).Accounted where
  indexed := indexed_ofLists nodes edges
  counters := fun label => by simp [start, counter, ofLists]
  nodeIds := by simp [start]
  edgeIds := fun id => by
    rw [start, mem_takenEdgeIds_ofLists]
    simp

theorem thrifty_start (nodes : List Node) (edges : List Edge) : (start nodes edges).Thrifty where
  nodes := fun type _ n first before => by
    simp [start, counter, ofLists] at before
    omega
  edges := fun n first before => by
    simp [start, counter, ofLists] at before
    omega

section
variable {h : History}

/-- **A fresh node id is free.** -/
theorem Accounted.nodeIdFree (acc : h.Accounted) (type : String) :
    h.NodeIdFree (h.draft.freshNodeId type).1 := by
  refine ⟨acc.indexed.not_mem_freshNodeId type, fun mem => ?_⟩
  obtain ⟨other, n, eq, before⟩ := acc.nodeIds _ mem
  rw [freshNodeId_fst] at eq
  obtain ⟨label, rfl⟩ := numbered_inj eq
  have ahead := h.draft.counter_le_nodeNumber type
  rw [← label] at before
  omega

/-- **A fresh edge id is free.** -/
theorem Accounted.edgeIdFree (acc : h.Accounted) : h.EdgeIdFree h.draft.freshEdgeId.1 := by
  have off : h.draft.freshEdgeId.1 ∉ h.draft.takenEdgeIds :=
    (handedOut_freshEdgeId h.draft).fresh _ (List.mem_singleton_self _)
  rw [acc.edgeIds, not_or] at off
  refine ⟨fun e mem eq => off.1 ?_, off.2⟩
  exact eq ▸ List.mem_map_of_mem mem

/-- A number between the counter and the one that is handed out is on a node. -/
theorem Accounted.not_nodeIdFree (acc : h.Accounted) {type : String} {n : Nat}
    (from_counter : h.draft.counter (nodeLabel type) ≤ n) (before : n < h.draft.nodeNumber type) :
    ¬ h.NodeIdFree (numbered (nodeLabel type) n) := by
  intro free
  have taken := taken_of_lt_firstFree from_counter before
  obtain ⟨node, mem, id⟩ := (acc.indexed.contains_index_iff _).mp taken
  exact free.1 node mem id

theorem Accounted.not_edgeIdFree (acc : h.Accounted) {n : Nat}
    (from_counter : h.draft.counter edgeLabel ≤ n) (before : n < h.draft.edgeNumber) :
    ¬ h.EdgeIdFree (numbered edgeLabel n) := by
  intro free
  have taken := taken_of_lt_firstFree from_counter before
  rw [← Std.TreeSet.mem_iff_contains, acc.edgeIds] at taken
  rcases taken with carried | given
  · obtain ⟨e, mem, id⟩ := List.mem_map.mp carried
    exact free.1 e mem id
  · exact free.2 given

/-- No number below the one that is handed out is free. -/
theorem Thrifty.not_nodeIdFree (thrifty : h.Thrifty) (acc : h.Accounted) {type : String}
    (other : type ≠ "edge") {n : Nat} (first : 1 ≤ n) (before : n < h.draft.nodeNumber type) :
    ¬ h.NodeIdFree (numbered (nodeLabel type) n) := by
  rcases Nat.lt_or_ge n (h.draft.counter (nodeLabel type)) with passed | ahead
  · exact thrifty.nodes type other n first passed
  · exact acc.not_nodeIdFree ahead before

theorem Thrifty.not_edgeIdFree (thrifty : h.Thrifty) (acc : h.Accounted) {n : Nat}
    (first : 1 ≤ n) (before : n < h.draft.edgeNumber) :
    ¬ h.EdgeIdFree (numbered edgeLabel n) := by
  rcases Nat.lt_or_ge n (h.draft.counter edgeLabel) with passed | ahead
  · exact thrifty.edges n first passed
  · exact acc.not_edgeIdFree ahead before

/-- **The number of a fresh node id is the least free one.** -/
theorem Thrifty.isLeast_nodeNumber (thrifty : h.Thrifty) (acc : h.Accounted) {type : String}
    (other : type ≠ "edge") :
    IsLeast {n | 1 ≤ n ∧ h.NodeIdFree (numbered (nodeLabel type) n)} (h.draft.nodeNumber type) := by
  refine ⟨⟨?_, acc.nodeIdFree type⟩, fun n ⟨first, free⟩ => ?_⟩
  · exact Nat.le_trans (acc.counters _) (h.draft.counter_le_nodeNumber type)
  · by_contra before
    exact thrifty.not_nodeIdFree acc other first (Nat.lt_of_not_le before) free

/-- **The number of a fresh edge id is the least free one.** -/
theorem Thrifty.isLeast_edgeNumber (thrifty : h.Thrifty) (acc : h.Accounted) :
    IsLeast {n | 1 ≤ n ∧ h.EdgeIdFree (numbered edgeLabel n)} h.draft.edgeNumber := by
  refine ⟨⟨?_, acc.edgeIdFree⟩, fun n ⟨first, free⟩ => ?_⟩
  · exact Nat.le_trans (acc.counters _) h.draft.counter_le_edgeNumber
  · by_contra before
    exact thrifty.not_edgeIdFree acc first (Nat.lt_of_not_le before) free

/-! ### Steps -/

theorem Accounted.step (acc : h.Accounted) {op : Op} (allowed : h.Allows op) :
    (h.step op).Accounted := by
  cases op with
  | freshNodeId type =>
    exact {
      indexed := indexed_step acc.indexed _
      counters := fun label =>
        Nat.le_trans (acc.counters label) (h.draft.counter_le_freshNodeId type label)
      nodeIds := by
        intro id mem
        rcases List.mem_append.mp mem with mem | mem
        · obtain ⟨other, n, eq, before⟩ := acc.nodeIds id mem
          exact ⟨other, n, eq, Nat.lt_of_lt_of_le before (h.draft.counter_le_freshNodeId type _)⟩
        · refine ⟨type, h.draft.nodeNumber type, List.mem_singleton.mp mem, ?_⟩
          show _ < (h.draft.freshNodeId type).2.counter _
          rw [counter_freshNodeId, if_pos rfl]
          exact Nat.lt_succ_self _
      edgeIds := acc.edgeIds }
  | freshEdgeId =>
    exact {
      indexed := indexed_step acc.indexed _
      counters := fun label =>
        Nat.le_trans (acc.counters label) (h.draft.counter_le_freshEdgeId label)
      nodeIds := by
        intro id mem
        obtain ⟨type, n, eq, before⟩ := acc.nodeIds id mem
        exact ⟨type, n, eq, Nat.lt_of_lt_of_le before (h.draft.counter_le_freshEdgeId _)⟩
      edgeIds := by
        intro id
        show id ∈ h.draft.freshEdgeId.2.takenEdgeIds ↔
          id ∈ h.edges.map (·.id) ∨ id ∈ h.edgeIds ++ [h.draft.freshEdgeId.1]
        rw [(handedOut_freshEdgeId h.draft).taken, acc.edgeIds, List.mem_append, or_assoc] }
  | insertNode node => exact { acc with indexed := indexed_step acc.indexed _ }
  | pushEdge edge =>
    exact { acc with
      indexed := indexed_step acc.indexed _
      edgeIds := by
        intro id
        show id ∈ h.draft.takenEdgeIds.insert edge.id ↔ id ∈ (h.edges ++ [edge]).map (·.id) ∨ _
        rw [Std.TreeSet.mem_insert, Std.LawfulEqCmp.compare_eq_iff_eq, acc.edgeIds]
        simp only [List.map_append, List.mem_append, List.map_cons, List.map_nil,
          List.mem_singleton]
        rw [eq_comm (a := edge.id)]
        tauto }
  | replaceEdges edges =>
    exact { acc with
      indexed := indexed_step acc.indexed _
      edgeIds := by
        intro id
        show id ∈ h.draft.takenEdgeIds ↔ id ∈ (h.edges ++ edges).map (·.id) ∨ _
        rw [acc.edgeIds, List.map_append, List.mem_append]
        refine ⟨Or.imp_left .inl, ?_⟩
        rintro ((old | new) | given)
        · exact .inl old
        · obtain ⟨e, mem, rfl⟩ := List.mem_map.mp new
          exact allowed e mem
        · exact .inr given }

/-- Ids that are not free are never free again. -/
theorem nodeIdFree_of_step {op : Op} {id : String} (free : (h.step op).NodeIdFree id) :
    h.NodeIdFree id := by
  cases op with
  | freshNodeId type => exact ⟨free.1, fun mem => free.2 (List.mem_append_left _ mem)⟩
  | freshEdgeId => exact free
  | insertNode node =>
    refine ⟨fun other mem => free.1 other ?_, free.2⟩
    exact Array.toList_push ▸ List.mem_append_left _ mem
  | pushEdge edge => exact free
  | replaceEdges edges => exact free

theorem edgeIdFree_of_step {op : Op} {id : String} (free : (h.step op).EdgeIdFree id) :
    h.EdgeIdFree id := by
  cases op with
  | freshNodeId type => exact free
  | freshEdgeId => exact ⟨free.1, fun mem => free.2 (List.mem_append_left _ mem)⟩
  | insertNode node => exact free
  | pushEdge edge => exact ⟨fun e mem => free.1 e (List.mem_append_left _ mem), free.2⟩
  | replaceEdges edges => exact ⟨fun e mem => free.1 e (List.mem_append_left _ mem), free.2⟩

/-- A counter passes a number only when it hands out that number or a later one. -/
theorem handed_of_passed {op : Op} {label : String} {n : Nat}
    (passed : n < (h.step op).draft.counter label) :
    n < h.draft.counter label ∨
      (∃ type, op = .freshNodeId type ∧ label = nodeLabel type ∧ n ≤ h.draft.nodeNumber type) ∨
      (op = .freshEdgeId ∧ label = edgeLabel ∧ n ≤ h.draft.edgeNumber) := by
  cases op with
  | freshNodeId type =>
    have counter : (h.step (.freshNodeId type)).draft.counter label =
      if nodeLabel type = label then h.draft.nodeNumber type + 1 else h.draft.counter label :=
      h.draft.counter_freshNodeId type label
    rw [counter] at passed
    split at passed
    · next same => exact .inr (.inl ⟨type, rfl, same.symm, Nat.le_of_lt_succ passed⟩)
    · exact .inl passed
  | freshEdgeId =>
    have counter : (h.step .freshEdgeId).draft.counter label =
      if edgeLabel = label then h.draft.edgeNumber + 1 else h.draft.counter label :=
      h.draft.counter_freshEdgeId label
    rw [counter] at passed
    split at passed
    · next same => exact .inr (.inr ⟨rfl, same.symm, Nat.le_of_lt_succ passed⟩)
    · exact .inl passed
  | insertNode _ | pushEdge _ | replaceEdges _ => exact .inl passed

/-- What a counter passes is taken or is handed out. -/
theorem Thrifty.step (thrifty : h.Thrifty) (acc : h.Accounted) {op : Op}
    (other : op ≠ .freshNodeId "edge") : (h.step op).Thrifty where
  nodes := by
    intro type not_edge n first passed free
    have free_before := nodeIdFree_of_step free
    obtain old | ⟨asked, rfl, same, le⟩ | ⟨-, same, -⟩ := handed_of_passed passed
    · exact thrifty.nodes type not_edge n first old free_before
    · obtain rfl := nodeLabel_inj.mp same
      obtain before | rfl := Nat.lt_or_eq_of_le le
      · exact thrifty.not_nodeIdFree acc not_edge first before free_before
      · exact free.2 (List.mem_append_right _ (List.mem_singleton_self _))
    · exact not_edge (nodeLabel_eq_edgeLabel_iff.mp same)
  edges := by
    intro n first passed free
    have free_before := edgeIdFree_of_step free
    obtain old | ⟨asked, rfl, same, -⟩ | ⟨rfl, -, le⟩ := handed_of_passed passed
    · exact thrifty.edges n first old free_before
    · exact other (nodeLabel_eq_edgeLabel_iff.mp same.symm ▸ rfl)
    · obtain before | rfl := Nat.lt_or_eq_of_le le
      · exact thrifty.not_edgeIdFree acc first before free_before
      · exact free.2 (List.mem_append_right _ (List.mem_singleton_self _))

/-! ### Runs -/

theorem Accounted.run (acc : h.Accounted) {ops : List Op} (allowed : h.AllowsAll ops) :
    (h.run ops).Accounted := by
  induction ops generalizing h with
  | nil => exact acc
  | cons op ops ih => exact ih (acc.step allowed.1) allowed.2

theorem Thrifty.run (thrifty : h.Thrifty) (acc : h.Accounted) {ops : List Op}
    (allowed : h.AllowsAll ops) (other : .freshNodeId "edge" ∉ ops) : (h.run ops).Thrifty := by
  induction ops generalizing h with
  | nil => exact thrifty
  | cons op ops ih =>
    rw [List.mem_cons, not_or] at other
    exact ih (thrifty.step acc (Ne.symm other.1)) (acc.step allowed.1) allowed.2 other.2

end

end History

/-- **Ids that are handed out are fresh.** After any run of operations in which edges are replaced
only under ids that they had or were given, the id for a node of any type is on no node and was
not handed out for a node before, and the id for an edge was never on an edge and was not handed
out for one before. Unless a node of type `edge` was asked for, both have the least number for
which this is so. -/
theorem fresh_of_run (nodes : List Node) (edges : List Edge) (ops : List Op)
    (allowed : (History.start nodes edges).AllowsAll ops) :
    let h := (History.start nodes edges).run ops
    (∀ type, h.NodeIdFree (h.draft.freshNodeId type).1) ∧
    h.EdgeIdFree h.draft.freshEdgeId.1 ∧
    (.freshNodeId "edge" ∉ ops →
      (∀ type, type ≠ "edge" → ∃ number,
        (h.draft.freshNodeId type).1 = numbered (nodeLabel type) number ∧
          IsLeast {n | 1 ≤ n ∧ h.NodeIdFree (numbered (nodeLabel type) n)} number) ∧
      ∃ number, h.draft.freshEdgeId.1 = numbered edgeLabel number ∧
        IsLeast {n | 1 ≤ n ∧ h.EdgeIdFree (numbered edgeLabel n)} number) := by
  intro h
  have first := History.accounted_start nodes edges
  have acc : h.Accounted := first.run allowed
  refine ⟨acc.nodeIdFree, acc.edgeIdFree, fun other => ?_⟩
  have thrifty : h.Thrifty := (History.thrifty_start nodes edges).run first allowed other
  exact ⟨fun type not_edge => ⟨_, rfl, thrifty.isLeast_nodeNumber acc not_edge⟩,
    _, rfl, thrifty.isLeast_edgeNumber acc⟩

/-- Types with a dash and a number in them: the second node of type `a-1` would carry the id
`auto-a-1-2`, and so would one of type `a` with the number `1-2`, if that were a number. -/
theorem fresh_of_run_dashes :
    let nodes : List Node := [⟨"auto-a-1", "a", .origin, []⟩]
    let edges : List Edge := [⟨"auto-edge-1", "x", "auto-a-1", none, none⟩]
    let ops : List Op := [.freshNodeId "a", .freshNodeId "a-1", .freshEdgeId,
      .insertNode ⟨"auto-a-1-1", "a-1", .origin, []⟩,
      .replaceEdges [⟨"auto-edge-2", "x", "auto-a-1-1", none, none⟩]]
    let h := (History.start nodes edges).run ops
    (History.start nodes edges).AllowsAll ops ∧
      h.NodeIdFree "auto-a-3" ∧ h.NodeIdFree "auto-a-1-2" ∧ h.EdgeIdFree "auto-edge-3" ∧
      IsLeast {n | 1 ≤ n ∧ h.NodeIdFree (numbered (nodeLabel "a-1") n)} 2 := by
  intro nodes edges ops h
  have allowed : (History.start nodes edges).AllowsAll ops := by decide +kernel
  have fresh := fresh_of_run nodes edges ops allowed
  have a : (h.draft.freshNodeId "a").1 = "auto-a-3" := by decide +kernel
  have a_1 : (h.draft.freshNodeId "a-1").1 = "auto-a-1-2" := by decide +kernel
  have edge : h.draft.freshEdgeId.1 = "auto-edge-3" := by decide +kernel
  obtain ⟨number, id, least⟩ := (fresh.2.2 (by simp [ops])).1 "a-1" (by decide)
  obtain ⟨-, rfl⟩ : _ ∧ 2 = number :=
    numbered_inj (a := nodeLabel "a-1") (b := nodeLabel "a-1") (a_1.symm.trans id)
  exact ⟨allowed, a ▸ fresh.1 "a", a_1 ▸ fresh.1 "a-1", edge ▸ fresh.2.1, least⟩

end Dataflow.Draft
