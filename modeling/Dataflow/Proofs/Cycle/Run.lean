import Dataflow.Proofs.Cycle.Exploration
import Dataflow.Proofs.Graph

/-! The search machine runs along explorations.

A state agrees with a path and the visited vertices (`Agrees`) when its marks say
which is which and how deep. From such a state the machine makes one move for every
target and two for every visit, and comes to a state that agrees with what the
exploration says (`exists_leads`). The moves that are allowed are just those that
the whole graph takes, so the cycles found are those of the exploration from the
roots, each noted once (`paths_of_explores`). -/
namespace Dataflow.Graph.Cycle

namespace Search

/-! ### Moves -/

/-- After `n` moves from `s` the machine is at `t`. -/
def Leads (g : Graph) (n : Nat) (s t : Search) : Prop :=
  ∀ more, s.run g (n + more) = t.run g more

namespace Leads

variable {g : Graph} {s t u : Search} {m n : Nat}

theorem refl : Leads g 0 s s := fun more => by rw [Nat.zero_add]

theorem trans (first : Leads g m s t) (second : Leads g n t u) : Leads g (m + n) s u :=
  fun more => by rw [Nat.add_assoc, first, second]

theorem single (h : s.step g = some t) : Leads g 1 s t := by
  intro more
  rw [Nat.add_comm]
  simp only [run, h]

end Leads

/-- What the search looks at next: the pending successors, or the roots when the path
is empty. -/
def targets (s : Search) : List String :=
  match s.frames with
  | [] => s.roots
  | frame :: _ => frame.pending

def withTargets (s : Search) (targets : List String) : Search :=
  match s.frames with
  | [] => { s with roots := targets }
  | frame :: outer => { s with frames := ⟨frame.vertex, targets⟩ :: outer }

section
variable (s : Search) (a b : List String)

@[simp] theorem marks_withTargets : (s.withTargets a).marks = s.marks := by
  unfold withTargets; split <;> rfl

@[simp] theorem path_withTargets : (s.withTargets a).path = s.path := by
  unfold withTargets; split <;> rfl

@[simp] theorem found_withTargets : (s.withTargets a).found = s.found := by
  unfold withTargets; split <;> rfl

@[simp] theorem targets_withTargets : (s.withTargets a).targets = a := by
  unfold withTargets; split
  · next none => simp [targets, none]
  · rfl

@[simp] theorem withTargets_withTargets : (s.withTargets a).withTargets b = s.withTargets b := by
  obtain ⟨_, _, frames, _, _⟩ := s
  cases frames <;> rfl

@[simp] theorem map_vertex_withTargets :
    (s.withTargets a).frames.map (·.vertex) = s.frames.map (·.vertex) := by
  unfold withTargets; split <;> simp_all

theorem frames_withTargets_eq_nil : (s.withTargets a).frames = [] ↔ s.frames = [] := by
  unfold withTargets; split <;> simp_all

end

section
variable {g : Graph} {s : Search} {id a : String} {outer : List Frame}

theorem getElem?_marks_enter : (s.enter g id).marks[a]? =
    if id = a then some (.active s.path.size) else s.marks[a]? := by
  simp only [enter, Std.TreeMap.getElem?_insert, Std.LawfulEqCmp.compare_eq_iff_eq]

theorem getElem?_marks_leave : (s.leave id outer).marks[a]? =
    if id = a then some .done else s.marks[a]? := by
  simp only [leave, Std.TreeMap.getElem?_insert, Std.LawfulEqCmp.compare_eq_iff_eq]

@[simp] theorem marks_note (s : Search) (cycle : List String) : (s.note cycle).marks = s.marks := by
  unfold note; split <;> rfl

@[simp] theorem path_note (s : Search) (cycle : List String) : (s.note cycle).path = s.path := by
  unfold note; split <;> rfl

end

/-- Two states that stand at the same place, whatever they have marked and found. -/
structure SamePlace (s t : Search) : Prop where
  frames : s.frames = t.frames
  roots : s.roots = t.roots

namespace SamePlace

variable {s t u : Search}

theorem trans (first : SamePlace s t) (second : SamePlace t u) : SamePlace s u :=
  ⟨first.frames.trans second.frames, first.roots.trans second.roots⟩

theorem targets_eq (h : SamePlace s t) : s.targets = t.targets := by
  unfold targets; rw [h.frames, h.roots]

/-- With nothing left to look at, a state stays where it is. -/
theorem of_targets_eq_nil (h : s.targets = []) : SamePlace s (s.withTargets []) := by
  unfold targets at h
  unfold Search.withTargets
  cases frames : s.frames with
  | nil => exact ⟨frames, by simpa [frames] using h⟩
  | cons frame outer =>
    obtain ⟨vertex, pending⟩ := frame
    simp only [frames] at h
    subst h
    exact ⟨frames, rfl⟩

theorem note (s : Search) (cycle : List String) : SamePlace (s.note cycle) s := by
  unfold Search.note
  split <;> exact ⟨rfl, rfl⟩

theorem withTargets (h : SamePlace s t) (a : List String) :
    SamePlace (s.withTargets a) (t.withTargets a) := by
  unfold Search.withTargets
  rw [h.frames]
  cases t.frames <;> exact ⟨rfl, by simp [h.roots]⟩

end SamePlace

/-! ### Agreement with a path -/

/-- The marks say which vertices are on the path and how deep, and which others were
visited. -/
structure Agrees (s : Search) (path seen : List String) : Prop where
  path_eq : s.path.toList = path
  known : ∀ id ∈ path, id ∈ seen
  active : ∀ before id after, path = before ++ id :: after →
    s.marks[id]? = some (.active before.length)
  done : ∀ id ∈ seen, id ∉ path → s.marks[id]? = some .done
  unmarked : ∀ id, id ∉ seen → s.marks[id]? = none

theorem agrees_start (g : Graph) : Agrees (start g) [] [] where
  path_eq := rfl
  known := by simp
  active := by simp
  done := by simp
  unmarked := by simp [start]

namespace Agrees

variable {g : Graph} {s : Search} {path seen : List String} {id : String}

/-- What is looked at, and what was found, is left out of account. -/
theorem congr {t : Search} (h : Agrees s path seen) (marks : t.marks = s.marks)
    (path_eq : t.path = s.path) : Agrees t path seen where
  path_eq := by rw [path_eq]; exact h.path_eq
  known := h.known
  active := by rw [marks]; exact h.active
  done := by rw [marks]; exact h.done
  unmarked := by rw [marks]; exact h.unmarked

theorem size_path (h : Agrees s path seen) : s.path.size = path.length := by
  rw [← h.path_eq, Array.length_toList]

theorem enter (h : Agrees s path seen) (fresh : id ∉ seen) :
    Agrees (s.enter g id) (path ++ [id]) (seen ++ [id]) where
  path_eq := by simp [Search.enter, h.path_eq]
  known := known_concat h.known id
  active := by
    intro before a after split
    rw [getElem?_marks_enter]
    rcases List.eq_nil_or_concat after with rfl | ⟨rest, b, rfl⟩
    · obtain ⟨rfl, eq⟩ := List.append_inj' split rfl
      rw [if_pos (List.singleton_inj.mp eq), h.size_path]
    · rw [List.concat_eq_append, ← List.cons_append, ← List.append_assoc] at split
      obtain ⟨rfl, -⟩ := List.append_inj' split rfl
      have ne : id ≠ a := by
        intro eq
        subst eq
        exact fresh (h.known id (by simp))
      rw [if_neg ne]
      exact h.active before a rest rfl
  done := by
    intro a mem off
    simp only [List.mem_append, List.mem_singleton, not_or] at mem off
    have ne : id ≠ a := fun eq => off.2 eq.symm
    rw [getElem?_marks_enter, if_neg ne]
    exact h.done a (mem.resolve_right off.2) off.1
  unmarked := by
    intro a off
    simp only [List.mem_append, List.mem_singleton, not_or] at off
    have ne : id ≠ a := fun eq => off.2 eq.symm
    rw [getElem?_marks_enter, if_neg ne]
    exact h.unmarked a off.1

theorem leave (h : Agrees s (path ++ [id]) seen) (off : id ∉ path) (outer : List Frame) :
    Agrees (s.leave id outer) path seen where
  path_eq := by simp [Search.leave, h.path_eq]
  known := fun a mem => h.known a (List.mem_append_left _ mem)
  active := by
    intro before a after split
    have ne : id ≠ a := by
      intro eq
      subst eq
      exact off (by simp [split])
    rw [getElem?_marks_leave, if_neg ne]
    exact h.active before a (after ++ [id]) (by simp [split])
  done := by
    intro a mem out
    rw [getElem?_marks_leave]
    by_cases eq : id = a
    · rw [if_pos eq]
    · rw [if_neg eq]
      exact h.done a mem (by simp [out, Ne.symm eq])
  unmarked := by
    intro a out
    have ne : id ≠ a := by
      intro eq
      subst eq
      exact out (h.known id (by simp))
    rw [getElem?_marks_leave, if_neg ne]
    exact h.unmarked a out

theorem note (h : Agrees s path seen) (cycle : List String) : Agrees (s.note cycle) path seen :=
  h.congr (marks_note s cycle) (path_note s cycle)

/-- The cycle that the machine notes is the path from the vertex on. -/
theorem cycleAt_eq {before after : List String} (h : Agrees s path seen)
    (split : path = before ++ id :: after) :
    s.cycleAt before.length id = id :: (after ++ [id]) := by
  simp [cycleAt, h.path_eq, split]

end Agrees

/-! ### Noting cycles -/

/-- The cycles found so far and then others, each unless it was found before. -/
def noteAll (found cycles : List (List String)) : List (List String) :=
  cycles.foldl (fun found cycle => if found.contains cycle then found else found ++ [cycle]) found

theorem noteAll_append (found a b : List (List String)) :
    noteAll found (a ++ b) = noteAll (noteAll found a) b := List.foldl_append

section
variable {found : List (List String)} {cycle : List String}

theorem noteAll_of_mem (known : cycle ∈ found) : noteAll found [cycle] = found := by
  simp [noteAll, known]

theorem noteAll_of_not_mem (new : cycle ∉ found) :
    noteAll found [cycle] = found ++ [cycle] := by
  simp [noteAll, new]

end

theorem noteAll_eq (found cycles : List (List String)) :
    noteAll found cycles = found ++ (cycles.filter (· ∉ found)).eraseDups := by
  induction cycles generalizing found with
  | nil => simp [noteAll]
  | cons cycle cycles ih =>
    rw [← List.singleton_append, noteAll_append, List.singleton_append]
    by_cases mem : cycle ∈ found
    · rw [noteAll_of_mem mem, ih, List.filter_cons_of_neg (by simpa using mem)]
    · have later : (cycles.filter (· ∉ found)).filter (fun c => !c == cycle) =
          cycles.filter (· ∉ found ++ [cycle]) := by
        rw [List.filter_filter]
        congr 1
        funext c
        by_cases eq : c = cycle <;> simp [eq]
      rw [noteAll_of_not_mem mem, ih, List.filter_cons_of_pos (by simpa using mem),
        List.eraseDups_cons, later, List.append_assoc, List.singleton_append]

theorem noteAll_nil (cycles : List (List String)) : noteAll [] cycles = cycles.eraseDups := by
  simp [noteAll_eq]

theorem nodup_noteAll {found : List (List String)} (nodup : found.Nodup)
    (cycles : List (List String)) : (noteAll found cycles).Nodup := by
  induction cycles generalizing found with
  | nil => exact nodup
  | cons cycle cycles ih =>
    rw [← List.singleton_append, noteAll_append]
    by_cases mem : cycle ∈ found
    · rw [noteAll_of_mem mem]
      exact ih nodup
    · rw [noteAll_of_not_mem mem, ← List.concat_eq_append]
      exact ih ((List.nodup_concat found cycle).mpr ⟨mem, nodup⟩)

theorem toList_found_note (s : Search) (cycle : List String) :
    (s.note cycle).found.toList = noteAll s.found.toList [cycle] := by
  by_cases mem : cycle ∈ s.found
  · rw [noteAll_of_mem (by simpa using mem), note, if_pos mem]
  · rw [noteAll_of_not_mem (by simpa using mem), note, if_neg mem]
    exact Array.toList_push

/-! ### The machine along an exploration -/

/-- The moves of some visits: one to leave each vertex, and one for each successor. -/
def cost (g : Graph) (ids : List String) : Nat :=
  (ids.map fun id => (g.successors id).length + 1).sum

theorem cost_cons (g : Graph) (id : String) (ids : List String) :
    cost g (id :: ids) = (g.successors id).length + 1 + cost g ids := by simp [cost]

theorem cost_append (g : Graph) (a b : List String) : cost g (a ++ b) = cost g a + cost g b := by
  simp [cost]

/-- A state agrees with a path and the visited vertices, and is to look at some targets
next. The machine is idle only between two roots. -/
structure Stands (s : Search) (path seen targets : List String) : Prop where
  agrees : Agrees s path seen
  idle : s.frames = [] → path = []
  pending : s.targets = targets

theorem stands_start (g : Graph) : Stands (start g) [] [] g.vertices where
  agrees := agrees_start g
  idle := fun _ => rfl
  pending := rfl

namespace Stands

variable {g : Graph} {s t : Search} {path seen targets : List String} {id : String}

theorem next (h : Stands s path seen (id :: targets)) :
    Stands (s.withTargets targets) path seen targets where
  agrees := h.agrees.congr (marks_withTargets s targets) (path_withTargets s targets)
  idle := fun none => h.idle ((frames_withTargets_eq_nil s targets).mp none)
  pending := targets_withTargets s targets

/-- A state at the same place, which may have visited more. -/
theorem of_samePlace {more : List String} (h : Stands s path seen targets)
    (place : SamePlace t s) (agrees : Agrees t path more) : Stands t path more targets where
  agrees := agrees
  idle := fun none => h.idle (place.frames ▸ none)
  pending := place.targets_eq.trans h.pending

theorem enter (h : Stands s path seen targets) (fresh : id ∉ seen) :
    Stands (s.enter g id) (path ++ [id]) (seen ++ [id]) (g.successors id) where
  agrees := h.agrees.enter fresh
  idle := by simp [Search.enter]
  pending := rfl

/-- The next move looks at the first target, whether that is a root or a successor. -/
theorem step_eq_follow (h : Stands s path seen (id :: targets)) :
    s.step g = some ((s.withTargets targets).follow g id) := by
  have pending := h.pending
  unfold Search.targets at pending
  unfold step withTargets
  split at pending
  · next none =>
    have unmarked : s.marks[id]? = .none ∨ s.marks[id]? = some .done := by
      by_cases mem : id ∈ seen
      · exact .inr (h.agrees.done id mem (by simp [h.idle none]))
      · exact .inl (h.agrees.unmarked id mem)
    rw [none, pending]
    rcases unmarked with mark | mark
    · simp [follow, mark, Std.TreeMap.contains_eq_isSome_getElem?]
    · simp [follow, mark, Std.TreeMap.contains_eq_isSome_getElem?]
  · next frame outer some =>
    rw [some]
    obtain ⟨vertex, _⟩ := frame
    simp only at pending
    subst pending
    rfl

theorem step_of_fresh (h : Stands s path seen (id :: targets)) (fresh : id ∉ seen) :
    s.step g = some ((s.withTargets targets).enter g id) := by
  rw [h.step_eq_follow, follow, h.next.agrees.unmarked id fresh]

theorem step_of_split {before after : List String} (h : Stands s path seen (id :: targets))
    (split : path = before ++ id :: after) :
    s.step g = some ((s.withTargets targets).note (id :: (after ++ [id]))) := by
  rw [h.step_eq_follow, follow, h.next.agrees.active before id after split]
  simp only [h.next.agrees.cycleAt_eq split]

theorem step_of_done (h : Stands s path seen (id :: targets)) (known : id ∈ seen)
    (off : id ∉ path) : s.step g = some (s.withTargets targets) := by
  rw [h.step_eq_follow, follow, h.next.agrees.done id known off]

end Stands

/-- The machine moves along an exploration, and stands in the end where it stood, with
nothing left to look at. -/
theorem exists_leads {g : Graph} {path seen targets : List String} {visits : List Visit}
    {cycles : List (List String)} (h : Explores g path seen targets visits cycles) {s : Search}
    (stands : Stands s path seen targets) :
    ∃ t, Leads g (targets.length + cost g (ids visits)) s t ∧ SamePlace t (s.withTargets []) ∧
      Agrees t path (seen ++ ids visits) ∧ t.found.toList = noteAll s.found.toList cycles := by
  induction h generalizing s with
  | nil =>
    refine ⟨s, .refl, .of_targets_eq_nil stands.pending, ?_, rfl⟩
    rw [ids_nil, List.append_nil]
    exact stands.agrees
  | @enter path seen id targets inner outer found later fresh below rest ihBelow ihRest =>
    have move : s.step g = some ((s.withTargets targets).enter g id) := stands.step_of_fresh fresh
    obtain ⟨t, leads, place, agrees_t, found_t⟩ := ihBelow (stands.next.enter fresh)
    have back : t.step g = some (t.leave id (s.withTargets targets).frames) := by
      rw [step, place.frames]
      rfl
    have place_back : SamePlace (t.leave id (s.withTargets targets).frames)
        (s.withTargets targets) := ⟨rfl, place.roots⟩
    have off : id ∉ path := fun mem => fresh (stands.agrees.known id mem)
    have agrees_back := agrees_t.leave off (s.withTargets targets).frames
    rw [List.append_assoc, List.singleton_append] at agrees_back
    obtain ⟨u, leads_u, place_u, agrees_u, found_u⟩ :=
      ihRest (stands.next.of_samePlace place_back agrees_back)
    refine ⟨u, ?_, ?_, ?_, ?_⟩
    · have moves := (Leads.single move).trans (leads.trans ((Leads.single back).trans leads_u))
      convert moves using 1
      simp only [ids_cons, ids_append, List.length_cons, cost_cons, cost_append]
      omega
    · have := place_u.trans (place_back.withTargets [])
      rwa [withTargets_withTargets] at this
    · simpa using agrees_u
    · have same : ((s.withTargets targets).enter g id).found = s.found :=
        found_withTargets s targets
      rw [same] at found_t
      rw [found_u, noteAll_append]
      exact congrArg (noteAll · later) found_t
  | @close path seen id targets visits found before after split rest ih =>
    have move : s.step g = some ((s.withTargets targets).note (id :: (after ++ [id]))) :=
      stands.step_of_split split
    have place := SamePlace.note (s.withTargets targets) (id :: (after ++ [id]))
    obtain ⟨t, leads, place_t, agrees_t, found_t⟩ :=
      ih (stands.next.of_samePlace place (stands.next.agrees.note _))
    refine ⟨t, ?_, ?_, agrees_t, ?_⟩
    · convert (Leads.single move).trans leads using 1
      simp only [List.length_cons]
      omega
    · have := place_t.trans (place.withTargets [])
      rwa [withTargets_withTargets] at this
    · rw [found_t, toList_found_note, found_withTargets, ← noteAll_append]
      rfl
  | @skip path seen id targets visits found known off rest ih =>
    have move : s.step g = some (s.withTargets targets) := stands.step_of_done known off
    obtain ⟨t, leads, place_t, agrees_t, found_t⟩ := ih stands.next
    refine ⟨t, ?_, ?_, agrees_t, ?_⟩
    · convert (Leads.single move).trans leads using 1
      simp only [List.length_cons]
      omega
    · rwa [withTargets_withTargets] at place_t
    · rw [found_t, found_withTargets]

end Search

/-! ### The whole graph -/

section
variable {nodes : List Node} {edges : List Edge}

theorem closed_ofLists : Closed (ofLists nodes edges) :=
  fun _ _ _ next => (mem_vertices_of_arc (mem_successors_ofLists.mp next)).2

variable {visits : List Visit} {cycles : List (List String)}

/-- An exploration from the roots visits every vertex once. -/
theorem ids_perm_vertices
    (h : Explores (ofLists nodes edges) [] [] (ofLists nodes edges).vertices visits cycles) :
    (ids visits).Perm (ofLists nodes edges).vertices := by
  rw [List.perm_ext_iff_of_nodup h.nodup nodup_vertices]
  intro id
  constructor
  · exact h.forall_ids (fun _ mem => mem) closed_ofLists id
  · exact h.target_mem (by simp) id

/-- **The cycles found are those that an exploration from the roots closes**, without
repetitions. -/
theorem paths_of_explores
    (h : Explores (ofLists nodes edges) [] [] (ofLists nodes edges).vertices visits cycles) :
    paths (ofLists nodes edges) = cycles.eraseDups := by
  obtain ⟨t, leads, -, -, found⟩ :=
    Search.exists_leads h (Search.stands_start (ofLists nodes edges))
  have every : Search.cost (ofLists nodes edges) (ids visits) =
      (ofLists nodes edges).vertices.length + (ofLists nodes edges).arcCount := by
    have perm := (ids_perm_vertices h).map fun id =>
      ((ofLists nodes edges).successors id).length + 1
    rw [Search.cost, perm.sum_eq, List.sum_map_add, sum_length_successors]
    simp [Nat.add_comm]
  have moves := leads 0
  rw [every] at moves
  have all : (ofLists nodes edges).vertices.length +
      ((ofLists nodes edges).vertices.length + (ofLists nodes edges).arcCount) + 0 =
      Search.moves (ofLists nodes edges) := by
    rw [Search.moves]
    omega
  rw [paths, ← all, moves, Search.run, found]
  exact Search.noteAll_nil cycles

theorem exists_exploration (nodes : List Node) (edges : List Edge) : ∃ visits cycles,
    Explores (ofLists nodes edges) [] [] (ofLists nodes edges).vertices visits cycles :=
  exists_explores closed_ofLists [] [] _ fun _ mem => mem

end

end Dataflow.Graph.Cycle
