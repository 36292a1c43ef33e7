import Dataflow.Proofs.Cycle.Coherent

/-! How many moves the search makes, and what it puts on its stack.

Each move uses up one thing of a number of them: a root, a successor that is pending, a vertex on
the stack, or what a vertex without a mark will take once it is gone on to (`remaining`). So the
search makes just as many moves as there are such things at the start (`step_run_eq_none_iff`). The
vertices that are put on the stack are those that get marked, each of them once (`keys_run_perm`);
and when nothing is left to look at, all vertices are marked and none is on the path, so that they
are all done (`coherent_of_run`). -/
namespace Dataflow.Graph.Cycle

/-- Different vertices, arcs that lead to vertices, and as many of them as are counted. -/
structure WellFormed (g : Graph) : Prop where
  nodup : g.vertices.Nodup
  closed : Closed g
  counted : (g.vertices.map fun id => (g.successors id).length).sum = g.arcCount

/-- All graphs of workflows are so. -/
theorem wellFormed_ofLists (nodes : List Node) (edges : List Edge) :
    WellFormed (ofLists nodes edges) :=
  ⟨nodup_vertices, closed_ofLists, sum_length_successors⟩

namespace Search

/-! ### Moves that remain -/

/-- The vertices without a mark. -/
def unmarked (g : Graph) (s : Search) : List String := g.vertices.filter (· ∉ s.marks)

/-- What the moves use up, one by one. -/
def remaining (g : Graph) (s : Search) : Nat :=
  s.roots.length + (s.frames.map fun frame => frame.pending.length + 1).sum + cost g (unmarked g s)

section
variable {g : Graph} {s t : Search} {id : String} {rest : List String}

theorem unmarked_congr (same : ∀ a, a ∈ t.marks ↔ a ∈ s.marks) : unmarked g t = unmarked g s := by
  simp [unmarked, same]

/-- The vertex that is gone on to was without a mark, and no other one gets one. -/
theorem unmarked_perm (nodup : g.vertices.Nodup) (vertex : id ∈ g.vertices)
    (fresh : id ∉ s.marks) : (unmarked g s).Perm (id :: unmarked g (s.enter g id)) := by
  have off : id ∉ unmarked g (s.enter g id) := by simp [unmarked, mem_marks_enter]
  have after : (id :: unmarked g (s.enter g id)).Nodup :=
    List.nodup_cons.mpr ⟨off, nodup.filter _⟩
  refine (List.perm_ext_iff_of_nodup (nodup.filter _) after).mpr fun a => ?_
  simp only [unmarked, List.mem_filter, List.mem_cons, mem_marks_enter]
  by_cases same : a = id
  · simp [same, vertex, fresh]
  · simp [same, Ne.symm same]

/-- To look at a target uses it up. -/
theorem remaining_withTargets (next : s.targets = id :: rest) :
    remaining g (s.withTargets rest) + 1 = remaining g s := by
  have same : unmarked g (s.withTargets rest) = unmarked g s := unmarked_congr (by simp)
  unfold remaining
  rw [same]
  unfold targets at next
  unfold withTargets
  split at next
  · next none =>
    simp only [none, next, List.length_cons]
    omega
  · next frame outer some =>
    simp only [some, next, List.map_cons, List.sum_cons, List.length_cons]
    omega

/-- What the vertex takes moves from the vertices without a mark to the stack. -/
theorem remaining_enter (nodup : g.vertices.Nodup) (vertex : id ∈ g.vertices)
    (fresh : id ∉ s.marks) : remaining g (s.enter g id) = remaining g s := by
  have before : cost g (unmarked g s) = cost g (id :: unmarked g (s.enter g id)) :=
    ((unmarked_perm nodup vertex fresh).map _).sum_eq
  rw [cost_cons] at before
  simp only [remaining, before, enter, List.map_cons, List.sum_cons]
  omega

theorem remaining_leave {outer : List Frame} (top : s.frames = ⟨id, []⟩ :: outer)
    (known : id ∈ s.marks) : remaining g (s.leave id outer) + 1 = remaining g s := by
  have same : unmarked g (s.leave id outer) = unmarked g s :=
    unmarked_congr fun a => mem_marks_leave known
  rw [remaining, remaining, same]
  simp only [top, leave, List.map_cons, List.sum_cons, List.length_nil]
  omega

theorem remaining_note (cycle : List String) : remaining g (s.note cycle) = remaining g s := by
  unfold note
  split <;> rfl

/-- **Every move uses up one thing.** -/
theorem remaining_of_move (wf : WellFormed g) (h : Coherent g s) (move : Move g s t) :
    remaining g t + 1 = remaining g s := by
  cases move with
  | leave top => exact remaining_leave top (h.mem_marks_of_frame (top ▸ List.mem_cons_self))
  | @enter id rest next fresh =>
    have vertex := h.mem_vertices_of_target wf.closed id (next ▸ List.mem_cons_self)
    rw [remaining_enter wf.nodup vertex (by simpa using fresh), remaining_withTargets next]
  | note next on => rw [remaining_note, remaining_withTargets next]
  | pass next known => exact remaining_withTargets next

/-- The search stands still just if nothing is left. -/
theorem step_eq_none_iff_remaining (h : Coherent g s) :
    s.step g = none ↔ remaining g s = 0 := by
  rw [step_eq_none_iff]
  constructor
  · intro ⟨frames, roots⟩
    have marked := (roots ▸ h.looked.roots).marked
    have none : unmarked g s = [] := by simpa [unmarked] using marked
    simp [remaining, frames, roots, none, cost]
  · intro zero
    simp only [remaining, Nat.add_eq_zero_iff, List.length_eq_zero_iff] at zero
    refine ⟨?_, zero.1.1⟩
    cases frames : s.frames with
    | nil => rfl
    | cons frame outer => simp [frames] at zero

/-- A run makes the moves that it is allowed, as long as there are some. -/
theorem remaining_run (wf : WellFormed g) (h : Coherent g s) (n : Nat) :
    remaining g (s.run g n) = remaining g s - n := by
  induction n generalizing s with
  | zero => rfl
  | succ n ih =>
    rw [run]
    split
    · next still => simp [(step_eq_none_iff_remaining h).mp still]
    · next t step =>
      have move := move_of_step step
      rw [ih (h.move wf.closed move), ← remaining_of_move wf h move]
      omega

theorem remaining_start (wf : WellFormed g) : remaining g (start g) = moves g := by
  have all : unmarked g (start g) = g.vertices := by simp [unmarked, start]
  have counted : cost g g.vertices = g.arcCount + g.vertices.length := by
    rw [cost, List.sum_map_add, wf.counted]
    simp
  rw [remaining, all, counted, moves]
  simp only [start, List.map_nil, List.sum_nil]
  omega

/-- **The search makes as many moves as it is allowed**, and stands still then. -/
theorem step_run_eq_none_iff (wf : WellFormed g) (n : Nat) :
    ((start g).run g n).step g = none ↔ moves g ≤ n := by
  have h := Coherent.start g
  rw [step_eq_none_iff_remaining (h.run wf.closed n), remaining_run wf h, remaining_start wf]
  omega

end

/-! ### Vertices that are put on the stack -/

/-- The vertex that a move puts on the stack, if it does. -/
def pushed? (s t : Search) : Option String :=
  if s.frames.length < t.frames.length then t.frames.head?.map (·.vertex) else none

/-- The vertices that at most `n` moves put on the stack, in order. -/
def pushes (g : Graph) : Nat → Search → List String
  | 0, _ => []
  | n + 1, s =>
    match s.step g with
    | none => []
    | some t => (pushed? s t).toList ++ pushes g n t

section
variable {g : Graph} {s t : Search} {id : String}

theorem keys_leave_perm {outer : List Frame} (known : id ∈ s.marks) :
    (s.leave id outer).marks.keys.Perm s.marks.keys := by
  refine (List.perm_ext_iff_of_nodup Std.TreeMap.nodup_keys Std.TreeMap.nodup_keys).mpr fun a => ?_
  rw [Std.TreeMap.mem_keys, Std.TreeMap.mem_keys, mem_marks_leave known]

theorem keys_enter_perm (fresh : id ∉ s.marks) :
    (s.enter g id).marks.keys.Perm (s.marks.keys ++ [id]) := by
  have once : (s.marks.keys ++ [id]).Nodup := by
    rw [← List.concat_eq_append, List.nodup_concat, Std.TreeMap.mem_keys]
    exact ⟨fresh, Std.TreeMap.nodup_keys⟩
  refine (List.perm_ext_iff_of_nodup Std.TreeMap.nodup_keys once).mpr fun a => ?_
  rw [Std.TreeMap.mem_keys, List.mem_append, List.mem_singleton, Std.TreeMap.mem_keys,
    mem_marks_enter, or_comm, eq_comm]

theorem length_frames_withTargets (targets : List String) :
    (s.withTargets targets).frames.length = s.frames.length := by
  have same := congrArg List.length (map_vertex_withTargets s targets)
  rwa [List.length_map, List.length_map] at same

theorem pushed?_eq_none (le : t.frames.length ≤ s.frames.length) : pushed? s t = none :=
  if_neg (Nat.not_lt.mpr le)

theorem pushed?_enter (targets : List String) :
    pushed? s ((s.withTargets targets).enter g id) = some id := by
  simp [pushed?, enter, length_frames_withTargets]

/-- A move marks what it puts on the stack, and nothing else that was without a mark. -/
theorem keys_perm_of_move (h : Coherent g s) (move : Move g s t) :
    t.marks.keys.Perm (s.marks.keys ++ (pushed? s t).toList) := by
  cases move with
  | leave top =>
    rw [pushed?_eq_none (by simp [top, leave]), Option.toList_none, List.append_nil]
    exact keys_leave_perm (h.mem_marks_of_frame (top ▸ List.mem_cons_self))
  | @enter id rest next fresh =>
    rw [pushed?_enter, Option.toList_some]
    have fresh : id ∉ (s.withTargets rest).marks := by rwa [marks_withTargets]
    simpa using keys_enter_perm fresh
  | @note id rest depth next on =>
    have place := SamePlace.note (s.withTargets rest) (s.cycleAt depth id)
    rw [pushed?_eq_none (by rw [place.frames, length_frames_withTargets]), marks_note]
    simp
  | pass next known =>
    rw [pushed?_eq_none (by rw [length_frames_withTargets])]
    simp

/-- **What gets marked is put on the stack, once.** -/
theorem keys_run_perm (wf : WellFormed g) (h : Coherent g s) (n : Nat) :
    (s.run g n).marks.keys.Perm (s.marks.keys ++ pushes g n s) := by
  induction n generalizing s with
  | zero => simp [run, pushes]
  | succ n ih =>
    cases step : s.step g with
    | none => simp [run, pushes, step]
    | some t =>
      have move := move_of_step step
      have rest := ih (h.move wf.closed move)
      simp only [run, pushes, step]
      rw [← List.append_assoc]
      exact rest.trans ((keys_perm_of_move h move).append_right _)

end

/-! ### The end of the search -/

section
variable {g : Graph} {s : Search}

/-- When the search stands still every vertex is done. -/
theorem done_of_step_eq_none (h : Coherent g s) (still : s.step g = none) {id : String}
    (vertex : id ∈ g.vertices) : s.marks[id]? = some .done := by
  obtain ⟨frames, roots⟩ := step_eq_none_iff.mp still
  have known : id ∈ s.marks := (roots ▸ h.looked.roots).marked id vertex
  obtain ⟨mark, marked⟩ :=
    Option.isSome_iff_exists.mp (Std.TreeMap.mem_iff_isSome_getElem?.mp known)
  cases mark with
  | done => exact marked
  | active depth =>
    have on := List.mem_of_getElem? (Array.getElem?_toList.trans ((h.active id depth).mp marked))
    rw [← h.stack, frames] at on
    cases on

end

end Search

open Search

/-- **The search goes through a graph once.** Before every move the stack holds the path; a vertex
is marked with a depth just if it stands there on the path; and a vertex that is done leads to
vertices that are done or on the path (`Coherent`). So the cycle that an arc to a vertex on the path
closes starts and ends with the vertex. There are just `moves g` moves, in which every vertex is put
on the stack once, and then every vertex is done. All graphs of workflows are well formed
(`wellFormed_ofLists`), so none is left out. -/
theorem coherent_of_run (g : Graph) (wf : WellFormed g) :
    (∀ n,
      let s := (Search.start g).run g n
      Coherent g s ∧
      (∀ (id : String) (depth : Nat), s.marks[id]? = some (.active depth) →
        depth < s.path.size ∧ ∃ after, s.cycleAt depth id = id :: (after ++ [id])) ∧
      (s.step g = none ↔ moves g ≤ n)) ∧
    (pushes g (moves g) (Search.start g)).Perm g.vertices ∧
    ∀ id ∈ g.vertices, ((Search.start g).run g (moves g)).marks[id]? = some .done := by
  have first := Coherent.start g
  have still := (step_run_eq_none_iff wf (moves g)).mpr (Nat.le_refl _)
  have last := first.run wf.closed (moves g)
  have done : ∀ id ∈ g.vertices, ((Search.start g).run g (moves g)).marks[id]? = some .done :=
    fun id vertex => done_of_step_eq_none last still vertex
  refine ⟨fun n => ⟨first.run wf.closed n, ?_, step_run_eq_none_iff wf n⟩, ?_, done⟩
  · exact fun id depth on => (first.run wf.closed n).exists_cycleAt_eq on
  · have marked := keys_run_perm wf first (moves g)
    have none : (Search.start g).marks.keys = [] := rfl
    rw [none, List.nil_append] at marked
    have all : ((Search.start g).run g (moves g)).marks.keys.Perm g.vertices := by
      refine (List.perm_ext_iff_of_nodup Std.TreeMap.nodup_keys wf.nodup).mpr fun id => ?_
      rw [Std.TreeMap.mem_keys]
      exact ⟨last.vertices id, fun vertex => mem_marks (done id vertex)⟩
    exact marked.symm.trans all

/-- A loop through a vertex that no node carries. After four moves the vertex on the side is done,
and the cycle back to the root is next but one. -/
theorem coherent_of_run_ghost :
    let g := ofLists [] [⟨"e", "a", "b", none, none⟩, ⟨"f", "a", "ghost", none, none⟩,
      ⟨"h", "ghost", "b", none, none⟩, ⟨"i", "ghost", "a", none, none⟩]
    let s := (Search.start g).run g 4
    WellFormed g ∧ s.path = #["a", "ghost"] ∧ s.marks["b"]? = some .done ∧
      s.cycleAt 0 "a" = ["a", "ghost", "a"] ∧ Coherent g s ∧ s.step g ≠ none ∧
      (pushes g (moves g) (Search.start g)).Perm ["a", "b", "ghost"] := by
  intro g s
  have wf : WellFormed g := wellFormed_ofLists _ _
  obtain ⟨run, pushed, -⟩ := coherent_of_run g wf
  obtain ⟨coherent, -, still⟩ := run 4
  have few : ¬ moves g ≤ 4 := by decide +kernel
  have vertices : g.vertices = ["a", "b", "ghost"] := by decide +kernel
  exact ⟨wf, by decide +kernel, by decide +kernel, by decide +kernel, coherent, mt still.mp few,
    vertices ▸ pushed⟩

end Dataflow.Graph.Cycle
