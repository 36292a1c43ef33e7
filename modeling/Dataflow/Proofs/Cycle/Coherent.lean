import Dataflow.Proofs.Cycle.Run

/-! What holds before every move of the search.

A move leaves the end of the path, goes on to a vertex without a mark, notes a cycle, or passes a
vertex that is marked (`Move`). The stack of frames and the path hold the same vertices; a vertex is
marked with a depth just if it stands there on the path; and whatever was looked at is marked, so
that a vertex which is done leads to marked vertices only (`Coherent`). The search starts so, each
move keeps it (`Coherent.move`), and therefore it holds all along a run (`Coherent.run`). -/
namespace Dataflow.Graph.Cycle

namespace Search

/-! ### Moves -/

/-- What a move does. -/
inductive Move (g : Graph) (s : Search) : Search → Prop where
  /-- The end of the path is left when all its successors were looked at. -/
  | leave {id outer} (top : s.frames = ⟨id, []⟩ :: outer) : Move g s (s.leave id outer)
  /-- A vertex without a mark is gone on to. -/
  | enter {id rest} (next : s.targets = id :: rest) (fresh : id ∉ s.marks) :
    Move g s ((s.withTargets rest).enter g id)
  /-- A vertex on the path closes a cycle. -/
  | note {id rest depth} (next : s.targets = id :: rest)
      (on : s.marks[id]? = some (.active depth)) :
    Move g s ((s.withTargets rest).note (s.cycleAt depth id))
  /-- Any other vertex is passed over; a root is so whatever its mark is. -/
  | pass {id rest} (next : s.targets = id :: rest) (known : id ∈ s.marks) :
    Move g s (s.withTargets rest)

section
variable {g : Graph} {s t : Search} {id a : String}

theorem not_mem_marks (none : s.marks[id]? = .none) : id ∉ s.marks := by
  simp [Std.TreeMap.mem_iff_isSome_getElem?, none]

theorem mem_marks {mark : Mark} (some : s.marks[id]? = .some mark) : id ∈ s.marks := by
  simp [Std.TreeMap.mem_iff_isSome_getElem?, some]

theorem move_of_step (h : s.step g = some t) : Move g s t := by
  obtain ⟨roots, marks, frames, path, found⟩ := s
  match frames, roots with
  | [], [] => exact absurd h (by simp [step])
  | [], id :: roots =>
    obtain rfl := Option.some.inj h
    split
    · next known => exact .pass rfl (Std.TreeMap.mem_iff_contains.mpr known)
    · next fresh => exact .enter rfl fun known => fresh (Std.TreeMap.mem_iff_contains.mp known)
  | ⟨id, []⟩ :: outer, _ =>
    obtain rfl := Option.some.inj h
    exact .leave rfl
  | ⟨vertex, id :: pending⟩ :: outer, _ =>
    obtain rfl := Option.some.inj h
    rw [follow]
    split
    · next fresh => exact .enter rfl (not_mem_marks fresh)
    · next depth on => exact .note rfl on
    · next done => exact .pass rfl (mem_marks done)

/-- The search stands still when no frame and no root is left. -/
theorem step_eq_none_iff : s.step g = none ↔ s.frames = [] ∧ s.roots = [] := by
  obtain ⟨roots, marks, frames, path, found⟩ := s
  match frames, roots with
  | [], [] => simp [step]
  | [], _ :: _ => simp [step]
  | ⟨_, []⟩ :: _, _ => simp [step]
  | ⟨_, _ :: _⟩ :: _, _ => simp [step]

theorem mem_marks_enter : a ∈ (s.enter g id).marks ↔ id = a ∨ a ∈ s.marks := by
  simp only [enter, Std.TreeMap.mem_insert, Std.LawfulEqCmp.compare_eq_iff_eq]

theorem mem_marks_leave {outer : List Frame} (known : id ∈ s.marks) :
    a ∈ (s.leave id outer).marks ↔ a ∈ s.marks := by
  simp only [leave, Std.TreeMap.mem_insert, Std.LawfulEqCmp.compare_eq_iff_eq]
  exact or_iff_right_of_imp fun same => same ▸ known

end

/-! ### What was looked at -/

/-- Of some vertices, the first are marked and the others are still to be looked at. -/
def Passed (marks : Std.TreeMap String Mark) (vertices pending : List String) : Prop :=
  ∃ passed, vertices = passed ++ pending ∧ ∀ id ∈ passed, id ∈ marks

/-- All that was looked at is marked: the roots that the search has started from, and the
successors of the vertices on the path that are not pending. -/
structure Looked (g : Graph) (s : Search) (marks : Std.TreeMap String Mark) : Prop where
  roots : Passed marks g.vertices s.roots
  frames : ∀ frame ∈ s.frames, Passed marks (g.successors frame.vertex) frame.pending

section
variable {g : Graph} {s t : Search} {marks more : Std.TreeMap String Mark} {id : String}
  {vertices pending rest : List String}

namespace Passed

theorem start (marks : Std.TreeMap String Mark) (vertices : List String) :
    Passed marks vertices vertices := ⟨[], rfl, by simp⟩

theorem next (h : Passed marks vertices (id :: rest)) (known : id ∈ marks) :
    Passed marks vertices rest := by
  obtain ⟨passed, rfl, marked⟩ := h
  refine ⟨passed ++ [id], by simp, ?_⟩
  simpa [or_imp, forall_and, known] using marked

theorem mono (h : Passed marks vertices pending) (sub : ∀ id ∈ marks, id ∈ more) :
    Passed more vertices pending := by
  obtain ⟨passed, split, marked⟩ := h
  exact ⟨passed, split, fun id mem => sub id (marked id mem)⟩

theorem mem_of_pending (h : Passed marks vertices pending) : ∀ id ∈ pending, id ∈ vertices := by
  obtain ⟨passed, rfl, -⟩ := h
  exact fun id mem => List.mem_append_right passed mem

theorem marked (h : Passed marks vertices []) : ∀ id ∈ vertices, id ∈ marks := by
  obtain ⟨passed, rfl, marked⟩ := h
  simpa using marked

end Passed

namespace Looked

theorem mono (h : Looked g s marks) (sub : ∀ id ∈ marks, id ∈ more) : Looked g s more :=
  ⟨h.roots.mono sub, fun frame mem => (h.frames frame mem).mono sub⟩

theorem of_samePlace (h : Looked g s marks) (place : SamePlace t s) : Looked g t marks :=
  ⟨place.roots ▸ h.roots, place.frames ▸ h.frames⟩

/-- The first target is looked at. -/
theorem next (h : Looked g s marks) (targets : s.targets = id :: rest) (known : id ∈ marks) :
    Looked g (s.withTargets rest) marks := by
  obtain ⟨roots, frames⟩ := h
  unfold Search.targets at targets
  unfold withTargets
  split at targets
  · next none =>
    rw [none]
    exact ⟨(targets ▸ roots).next known, by simp⟩
  · next frame outer some =>
    rw [some, List.forall_mem_cons] at frames
    exact ⟨roots, List.forall_mem_cons.mpr ⟨(targets ▸ frames.1).next known, frames.2⟩⟩

theorem enter (h : Looked g s marks) (id : String) : Looked g (s.enter g id) marks :=
  ⟨h.roots, List.forall_mem_cons.mpr ⟨.start marks _, h.frames⟩⟩

theorem leave {outer : List Frame} (h : Looked g s marks) (top : s.frames = ⟨id, []⟩ :: outer) :
    Looked g (s.leave id outer) marks := by
  obtain ⟨roots, frames⟩ := h
  rw [top, List.forall_mem_cons] at frames
  exact ⟨roots, frames.2⟩

end Looked

end

/-! ### Before every move -/

/-- What holds before every move. -/
structure Coherent (g : Graph) (s : Search) : Prop where
  /-- The stack holds the path. -/
  stack : (s.frames.map (·.vertex)).reverse = s.path.toList
  /-- The vertices that are marked with a depth are those on the path, there. -/
  active : ∀ (id : String) (depth : Nat),
    s.marks[id]? = some (.active depth) ↔ s.path[depth]? = some id
  /-- Vertices that are done lead to vertices that are done or on the path. -/
  done : ∀ id : String, s.marks[id]? = some .done → ∀ next ∈ g.successors id, next ∈ s.marks
  looked : Looked g s s.marks
  vertices : ∀ id ∈ s.marks, id ∈ g.vertices

namespace Coherent

variable {g : Graph} {s t : Search} {id : String} {rest : List String}

theorem start (g : Graph) : Coherent g (Search.start g) where
  stack := rfl
  active := by simp [Search.start]
  done := by simp [Search.start]
  looked := ⟨.start _ _, by simp [Search.start]⟩
  vertices := by simp [Search.start]

/-- A vertex on the path is marked. -/
theorem mem_marks_of_frame (h : Coherent g s) {frame : Frame} (mem : frame ∈ s.frames) :
    frame.vertex ∈ s.marks := by
  have on : frame.vertex ∈ s.path.toList := by
    rw [← h.stack, List.mem_reverse]
    exact List.mem_map_of_mem mem
  obtain ⟨depth, at_depth⟩ := List.mem_iff_getElem?.mp on
  exact mem_marks ((h.active _ depth).mpr (by simpa using at_depth))

/-- What the search looks at next are vertices. -/
theorem mem_vertices_of_target (closed : Closed g) (h : Coherent g s) :
    ∀ id ∈ s.targets, id ∈ g.vertices := by
  intro id mem
  unfold targets at mem
  split at mem
  · exact h.looked.roots.mem_of_pending id mem
  · next frame outer top =>
    have on : frame ∈ s.frames := top ▸ List.mem_cons_self
    have vertex := h.vertices _ (h.mem_marks_of_frame on)
    exact closed _ vertex id ((h.looked.frames frame on).mem_of_pending id mem)

/-- Only the marks, the path and the vertices of the frames count, and what was looked at. -/
theorem congr (h : Coherent g s) (stack : t.frames.map (·.vertex) = s.frames.map (·.vertex))
    (path : t.path = s.path) (marks : t.marks = s.marks) (looked : Looked g t s.marks) :
    Coherent g t where
  stack := by rw [stack, path]; exact h.stack
  active := by rw [path, marks]; exact h.active
  done := by rw [marks]; exact h.done
  looked := by rw [marks]; exact looked
  vertices := by rw [marks]; exact h.vertices

theorem pass (h : Coherent g s) (next : s.targets = id :: rest) (known : id ∈ s.marks) :
    Coherent g (s.withTargets rest) :=
  h.congr (map_vertex_withTargets s rest) (path_withTargets s rest) (marks_withTargets s rest)
    (h.looked.next next known)

theorem note (h : Coherent g s) (cycle : List String) : Coherent g (s.note cycle) := by
  have place := SamePlace.note s cycle
  exact h.congr (by rw [place.frames]) (path_note s cycle) (marks_note s cycle)
    (h.looked.of_samePlace place)

/-- The vertex that is gone on to stands at the end of the path. -/
theorem enter (closed : Closed g) (h : Coherent g s) (next : s.targets = id :: rest)
    (fresh : id ∉ s.marks) : Coherent g ((s.withTargets rest).enter g id) where
  stack := by simp [Search.enter, h.stack]
  active := by
    intro a depth
    have path : ((s.withTargets rest).enter g id).path = s.path.push id := by simp [Search.enter]
    rw [getElem?_marks_enter, marks_withTargets, path_withTargets, path, Array.getElem?_push]
    have old := h.active a depth
    by_cases same : id = a
    · subst same
      rw [Std.TreeMap.getElem?_eq_none fresh] at old
      by_cases last : depth = s.path.size
      · simp [last]
      · simp [last, Ne.symm last, ← old]
    · rw [if_neg same, old]
      by_cases last : depth = s.path.size
      · simp [last, same]
      · rw [if_neg last]
  done := by
    intro a done
    rw [getElem?_marks_enter, marks_withTargets] at done
    split at done
    · cases done
    · intro b mem
      rw [mem_marks_enter, marks_withTargets]
      exact .inr (h.done a done b mem)
  looked := by
    have grows : ∀ a ∈ s.marks, a ∈ ((s.withTargets rest).enter g id).marks := by
      intro a mem
      rw [mem_marks_enter, marks_withTargets]
      exact .inr mem
    have looked := h.looked.mono grows
    exact (looked.next next (mem_marks_enter.mpr (.inl rfl))).enter id
  vertices := by
    intro a mem
    rw [mem_marks_enter, marks_withTargets] at mem
    rcases mem with rfl | mem
    · exact h.mem_vertices_of_target closed id (next ▸ List.mem_cons_self)
    · exact h.vertices a mem

/-- The vertex of the innermost frame stands at the end of the path. -/
theorem getElem?_last (h : Coherent g s) {frame : Frame} {outer : List Frame}
    (top : s.frames = frame :: outer) : s.path[s.path.size - 1]? = some frame.vertex := by
  have stack := h.stack
  rw [top, List.map_cons, List.reverse_cons] at stack
  rw [← Array.getElem?_toList, ← Array.length_toList, ← stack]
  simp

/-- The vertex at the end of the path stands nowhere else on it. -/
theorem getElem?_pop_eq_some_iff (h : Coherent g s) {outer : List Frame}
    (top : s.frames = ⟨id, []⟩ :: outer) {a : String} {depth : Nat} :
    s.path.pop[depth]? = some a ↔ s.path[depth]? = some a ∧ id ≠ a := by
  have last := h.getElem?_last top
  rw [Array.getElem?_pop]
  constructor
  · intro on
    split at on
    · next before =>
      refine ⟨on, ?_⟩
      rintro rfl
      have here := (h.active id depth).mpr on
      rw [(h.active id _).mpr last, Option.some_inj, Mark.active.injEq] at here
      omega
    · cases on
  · intro ⟨on, other⟩
    have lt := (Array.getElem?_eq_some_iff.mp on).1
    have before : depth < s.path.size - 1 := by
      by_contra behind
      obtain rfl : depth = s.path.size - 1 := by omega
      exact other (Option.some_inj.mp (last.symm.trans on))
    rw [if_pos before]
    exact on

/-- The vertex that is left is done: all its successors were looked at. -/
theorem leave (h : Coherent g s) {outer : List Frame} (top : s.frames = ⟨id, []⟩ :: outer) :
    Coherent g (s.leave id outer) := by
  have known : id ∈ s.marks := h.mem_marks_of_frame (top ▸ List.mem_cons_self)
  exact {
    stack := by
      have stack := h.stack
      rw [top, List.map_cons, List.reverse_cons] at stack
      simp [Search.leave, ← stack]
    active := by
      intro a depth
      have path : (s.leave id outer).path = s.path.pop := rfl
      rw [getElem?_marks_leave, path, h.getElem?_pop_eq_some_iff top]
      by_cases same : id = a
      · simp [same]
      · rw [if_neg same, h.active, and_iff_left same]
    done := by
      intro a done b mem
      rw [mem_marks_leave known]
      rw [getElem?_marks_leave] at done
      split at done
      · next same =>
        have passed := h.looked.frames _ (top ▸ List.mem_cons_self)
        exact passed.marked b (same ▸ mem)
      · exact h.done a done b mem
    looked := (h.looked.mono fun _ mem => (mem_marks_leave known).mpr mem).leave top
    vertices := fun a mem => h.vertices a ((mem_marks_leave known).mp mem) }

theorem move (closed : Closed g) (h : Coherent g s) (move : Move g s t) : Coherent g t := by
  cases move with
  | leave top => exact h.leave top
  | enter next fresh => exact h.enter closed next fresh
  | note next on => exact (h.pass next (mem_marks on)).note _
  | pass next known => exact h.pass next known

/-- **The search stays coherent**, however many moves it makes. -/
theorem run (closed : Closed g) (h : Coherent g s) (n : Nat) : Coherent g (s.run g n) := by
  induction n generalizing s with
  | zero => exact h
  | succ n ih =>
    rw [Search.run]
    split
    · exact h
    · next t step => exact ih (h.move closed (move_of_step step))

/-- The path from the depth of a vertex on starts with the vertex. -/
theorem exists_cycleAt_eq (h : Coherent g s) {depth : Nat}
    (on : s.marks[id]? = some (.active depth)) :
    depth < s.path.size ∧ ∃ after, s.cycleAt depth id = id :: (after ++ [id]) := by
  obtain ⟨lt, at_depth⟩ := Array.getElem?_eq_some_iff.mp ((h.active id depth).mp on)
  refine ⟨lt, s.path.toList.drop (depth + 1), ?_⟩
  have split := List.drop_eq_getElem_cons (l := s.path.toList) (Array.length_toList ▸ lt)
  rw [cycleAt, split, Array.getElem_toList, at_depth, List.cons_append]

end Coherent

end Search

end Dataflow.Graph.Cycle
