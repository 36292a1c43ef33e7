import Dataflow.Proofs.Cycle.Run

/-! Cycles of a graph in which arcs are led through new vertices.

Some arcs of an old graph are led through new vertices, each of them through one of its
own (`Subdivides`). An exploration of the old graph then has its mirror in the new one:
it visits the same old vertices in the same order, and closes the same cycles but for the
new vertices on them (`Subdivides.exists_mirror`). What carries the induction is that a
new vertex stays unvisited until the arc that leads through it is looked at (`Tracks`).
So the paths found are the same, once the new vertices are taken out of them
(`Subdivision.paths_eq`). -/
namespace Dataflow.Graph.Cycle

section
variable (ins : List String)

/-- What is left of some ids when the new ones are taken out. -/
def old (ids : List String) : List String := ids.filter (· ∉ ins)

@[simp] theorem old_nil : old ins [] = [] := rfl

@[simp] theorem old_append (a b : List String) : old ins (a ++ b) = old ins a ++ old ins b := by
  simp [old]

variable {ins}

@[simp] theorem mem_old {ids : List String} {id : String} :
    id ∈ old ins ids ↔ id ∈ ids ∧ id ∉ ins := by
  simp [old]

theorem old_cons_of_mem {id : String} (new : id ∈ ins) (ids : List String) :
    old ins (id :: ids) = old ins ids := by
  simp [old, new]

theorem old_cons_of_not_mem {id : String} (off : id ∉ ins) (ids : List String) :
    old ins (id :: ids) = id :: old ins ids := by
  simp [old, off]

theorem old_eq_nil {ids : List String} (new : ∀ id ∈ ids, id ∈ ins) : old ins ids = [] := by
  simpa [old] using new

theorem old_eq_self {ids : List String} (off : ∀ id ∈ ids, id ∉ ins) : old ins ids = ids := by
  simpa [old] using off

/-- An old vertex splits a path as it splits the old part of it. -/
theorem exists_split {path before after : List String} {id : String}
    (split : old ins path = before ++ id :: after) :
    ∃ before' after', path = before' ++ id :: after' ∧ old ins after' = after := by
  obtain ⟨front, back, rfl, -, eq⟩ := List.filter_eq_append_iff.mp split
  obtain ⟨skipped, after', rfl, -, -, rest⟩ := List.filter_eq_cons_iff.mp eq
  exact ⟨front ++ skipped, after', by simp, rest⟩

end

/-! ### Arcs through new vertices -/

section
variable (ins : List String) (h : Graph)

/-- An arc as it was, or led through a new vertex: the vertex that it goes on to first,
the new vertex if there is one, and the old target. -/
inductive Leg : String → List String → String → Prop where
  | direct (target : String) : Leg target [] target
  | through {c target : String} (new : c ∈ ins) (on : h.successors c = [target]) :
      Leg c [c] target

/-- Old targets in order, each as it was or through a new vertex of its own. -/
inductive Detours : List String → List String → Prop where
  | nil : Detours [] []
  | cons {target first via targets firsts} (off : target ∉ ins)
      (leg : Leg ins h first via target) (apart : ∀ c ∈ via, c ∉ firsts)
      (rest : Detours targets firsts) : Detours (target :: targets) (first :: firsts)

/-- The arcs of the old graph are led through new vertices, and into each new vertex there
are arcs from one vertex only. -/
structure Subdivides (g : Graph) : Prop where
  detours : ∀ u, u ∉ ins → Detours ins h (g.successors u) (h.successors u)
  own : ∀ c ∈ ins, ∀ u v, c ∈ h.successors u → c ∈ h.successors v → u = v

end

section
variable {ins : List String} {g h : Graph}

theorem Detours.refl {targets : List String} (off : ∀ id ∈ targets, id ∉ ins) :
    Detours ins h targets targets := by
  induction targets with
  | nil => exact .nil
  | cons target targets ih =>
    simp only [List.forall_mem_cons] at off
    exact .cons off.1 (.direct target) (by simp) (ih off.2)

namespace Leg

variable {first target : String} {via : List String}

theorem old_via (leg : Leg ins h first via target) : old ins via = [] := by
  cases leg with
  | direct => rfl
  | through new _ => exact old_eq_nil (by simpa using new)

theorem eq_first (leg : Leg ins h first via target) : ∀ c ∈ via, c = first := by
  cases leg with
  | direct => simp
  | through => simp

theorem not_mem_via {c : String} {firsts : List String} (leg : Leg ins h first via target)
    (ahead : c ∉ first :: firsts) : c ∉ via :=
  fun mem => ahead (leg.eq_first c mem ▸ List.mem_cons_self ..)

theorem new (leg : Leg ins h first via target) : ∀ c ∈ via, c ∈ ins := by
  cases leg with
  | direct => simp
  | through new _ => simpa using new

/-- The old target is explored from the new vertex, if the arc leads through one. -/
theorem explores {path seen firsts : List String} {inner outer : List Visit}
    {found later : List (List String)} (leg : Leg ins h first via target)
    (fresh : ∀ c ∈ via, c ∉ seen)
    (one : Explores h (path ++ via) (seen ++ via) [target] inner found)
    (rest : Explores h path (seen ++ via ++ ids inner) firsts outer later) :
    Explores h path seen (first :: firsts) (via.map (⟨path, ·⟩) ++ inner ++ outer)
      (found ++ later) := by
  cases leg with
  | direct =>
    simp only [List.append_nil] at one rest
    exact one.append rest
  | through _ on =>
    rw [← on] at one
    simp only [List.append_assoc, List.singleton_append] at rest
    exact .enter (fresh _ (List.mem_singleton_self _)) one rest

end Leg

/-! ### Mirrored explorations -/

/-- A search of the new graph stands where one of the old graph does. New vertices that are
still ahead, behind the arcs to be looked at or those of unvisited vertices, were not
visited. -/
structure Tracks (ins : List String) (h : Graph) (path seen path' seen' firsts : List String) :
    Prop where
  path_eq : old ins path' = path
  seen_eq : old ins seen' = seen
  pending : ∀ c ∈ firsts, c ∈ ins → c ∉ seen'
  later : ∀ u, u ∉ ins → u ∉ seen → ∀ c ∈ h.successors u, c ∈ ins → c ∉ seen' ∧ c ∉ firsts

/-- What the search of the new graph visits and closes, next to that of the old graph. -/
structure Mirrors (ins : List String) (h : Graph) (firsts : List String)
    (visits visits' : List Visit) (cycles cycles' : List (List String)) : Prop where
  ids_eq : old ins (ids visits') = ids visits
  cycles_eq : cycles'.map (old ins) = cycles
  new : ∀ c ∈ ids visits', c ∈ ins → c ∈ firsts ∨ ∃ u ∈ ids visits, c ∈ h.successors u

namespace Tracks

variable {path seen path' seen' firsts via : List String} {first id : String}

theorem mem_seen (tracks : Tracks ins h path seen path' seen' firsts) :
    id ∈ seen ↔ id ∈ seen' ∧ id ∉ ins := by
  rw [← tracks.seen_eq, mem_old]

theorem mem_path (tracks : Tracks ins h path seen path' seen' firsts) :
    id ∈ path ↔ id ∈ path' ∧ id ∉ ins := by
  rw [← tracks.path_eq, mem_old]

/-- The new vertex that an arc leads through was not visited. -/
theorem via_fresh (tracks : Tracks ins h path seen path' seen' (first :: firsts))
    (leg : Leg ins h first via id) : ∀ c ∈ via, c ∉ seen' := by
  intro c mem
  have eq := leg.eq_first c mem
  exact tracks.pending c (eq ▸ List.mem_cons_self ..) (leg.new c mem)

/-- A new vertex behind an unvisited one is still ahead when an arc is looked at. -/
theorem ahead (tracks : Tracks ins h path seen path' seen' (first :: firsts))
    (leg : Leg ins h first via id) {u c : String} (old_u : u ∉ ins) (out : u ∉ seen)
    (next : c ∈ h.successors u) (new : c ∈ ins) : c ∉ seen' ++ via ∧ c ∉ firsts := by
  obtain ⟨unseen, away⟩ := tracks.later u old_u out c next new
  have not_via : c ∉ via := leg.not_mem_via away
  exact ⟨by simp [unseen, not_via], fun mem => away (List.mem_cons_of_mem _ mem)⟩

/-- Going on to an old vertex. -/
theorem below (tracks : Tracks ins h path seen path' seen' (first :: firsts))
    (sub : Subdivides ins h g) (leg : Leg ins h first via id) (off : id ∉ ins)
    (fresh : id ∉ seen) :
    Tracks ins h (path ++ [id]) (seen ++ [id]) (path' ++ via ++ [id]) (seen' ++ via ++ [id])
      (h.successors id) where
  path_eq := by simp [tracks.path_eq, leg.old_via, old_cons_of_not_mem off]
  seen_eq := by simp [tracks.seen_eq, leg.old_via, old_cons_of_not_mem off]
  pending := by
    intro c next new
    have ne : c ≠ id := fun eq => off (eq ▸ new)
    obtain ⟨unseen, -⟩ := tracks.ahead leg off fresh next new
    rw [List.mem_append, List.mem_singleton, not_or]
    exact ⟨unseen, ne⟩
  later := by
    intro u old_u out c next new
    rw [List.mem_append, List.mem_singleton, not_or] at out
    have ne : c ≠ id := fun eq => off (eq ▸ new)
    obtain ⟨unseen, -⟩ := tracks.ahead leg old_u out.1 next new
    rw [List.mem_append, List.mem_singleton, not_or]
    exact ⟨⟨unseen, ne⟩, fun mem => out.2 (sub.own c new u id next mem)⟩

/-- Going on to the other targets, after the visits that the first of them led to. -/
theorem rest (tracks : Tracks ins h path seen path' seen' (first :: firsts))
    (sub : Subdivides ins h g) (leg : Leg ins h first via id) (apart : ∀ c ∈ via, c ∉ firsts)
    {more more' : List String} (more_eq : old ins more' = more) (fresh : ∀ id ∈ more, id ∉ seen)
    (new : ∀ c ∈ more', c ∈ ins → ∃ u ∈ more, c ∈ h.successors u) :
    Tracks ins h path (seen ++ more) path' (seen' ++ via ++ more') firsts where
  path_eq := tracks.path_eq
  seen_eq := by simp [tracks.seen_eq, leg.old_via, more_eq]
  pending := by
    intro c mem new_c
    have unseen := tracks.pending c (List.mem_cons_of_mem _ mem) new_c
    have not_via : c ∉ via := fun on => apart c on mem
    have not_more : c ∉ more' := by
      intro visited
      obtain ⟨u, u_mem, next⟩ := new c visited new_c
      have old_u : u ∉ ins := (mem_old.mp (more_eq ▸ u_mem)).2
      exact (tracks.ahead leg old_u (fresh u u_mem) next new_c).2 mem
    simp [unseen, not_via, not_more]
  later := by
    intro u old_u out c next new_c
    rw [List.mem_append, not_or] at out
    obtain ⟨unseen, away⟩ := tracks.ahead leg old_u out.1 next new_c
    have not_more : c ∉ more' := by
      intro visited
      obtain ⟨v, v_mem, on⟩ := new c visited new_c
      exact out.2 (sub.own c new_c u v next on ▸ v_mem)
    rw [List.mem_append, not_or]
    exact ⟨⟨unseen, not_more⟩, away⟩

end Tracks

theorem ids_on (path ids' : List String) : ids (ids'.map (⟨path, ·⟩)) = ids' := by
  simp [ids, Function.comp_def]

/-- What the first target leads to, and then the others. -/
theorem Mirrors.cons {first target : String} {via path firsts : List String}
    {outer outer' : List Visit} {found found' later later' : List (List String)}
    (inner inner' : List Visit) (leg : Leg ins h first via target)
    (ids_eq : old ins (ids inner') = ids inner)
    (cycles_eq : found'.map (old ins) = found)
    (new : ∀ c ∈ ids inner', c ∈ ins → ∃ u ∈ ids inner, c ∈ h.successors u)
    (rest : Mirrors ins h firsts outer outer' later later') :
    Mirrors ins h (first :: firsts) (inner ++ outer)
      (via.map (⟨path, ·⟩) ++ inner' ++ outer') (found ++ later) (found' ++ later') where
  ids_eq := by
    simp only [ids_append, old_append, ids_on, leg.old_via, ids_eq, rest.ids_eq, List.nil_append]
  cycles_eq := by rw [List.map_append, cycles_eq, rest.cycles_eq]
  new := by
    intro c mem new_c
    simp only [ids_append, ids_on, List.mem_append, or_assoc] at mem
    rcases mem with mem | mem | mem
    · exact .inl (leg.eq_first c mem ▸ List.mem_cons_self ..)
    · obtain ⟨u, u_mem, next⟩ := new c mem new_c
      exact .inr ⟨u, by simp [u_mem], next⟩
    · rcases rest.new c mem new_c with ahead | ⟨u, u_mem, next⟩
      · exact .inl (List.mem_cons_of_mem _ ahead)
      · exact .inr ⟨u, by simp [u_mem], next⟩

/-- **Every exploration of the old graph has its mirror in the new graph.** -/
theorem Subdivides.exists_mirror {path seen targets : List String} {visits : List Visit}
    {cycles : List (List String)} (sub : Subdivides ins h g)
    (explores : Explores g path seen targets visits cycles) {path' seen' firsts : List String}
    (detours : Detours ins h targets firsts) (tracks : Tracks ins h path seen path' seen' firsts) :
    ∃ visits' cycles', Explores h path' seen' firsts visits' cycles' ∧
      Mirrors ins h firsts visits visits' cycles cycles' := by
  -- Each rule of the old exploration is one of the new, behind the new vertex of the arc.
  induction explores generalizing path' seen' firsts with
  | nil =>
    cases detours
    exact ⟨[], [], .nil, rfl, rfl, by simp⟩
  | @enter path seen id targets inner outer found later fresh below rest ihBelow ihRest =>
    obtain _ | @⟨_, first, via, _, firsts, off, leg, apart, others⟩ := detours
    have fresh' : id ∉ seen' ++ via := by
      have not_via : id ∉ via := fun mem => off (leg.new id mem)
      have unseen : id ∉ seen' := fun mem => fresh (tracks.mem_seen.mpr ⟨mem, off⟩)
      simp [unseen, not_via]
    obtain ⟨inner', found', below', mirror⟩ :=
      ihBelow (sub.detours id off) (tracks.below sub leg off fresh)
    have old_inner : old ins (id :: ids inner') = id :: ids inner := by
      rw [old_cons_of_not_mem off, mirror.ids_eq]
    have new_inner : ∀ c ∈ id :: ids inner', c ∈ ins →
        ∃ u ∈ id :: ids inner, c ∈ h.successors u := by
      intro c mem new
      rcases List.mem_cons.mp mem with rfl | mem
      · exact absurd new off
      · rcases mirror.new c mem new with next | ⟨u, u_mem, next⟩
        · exact ⟨id, List.mem_cons_self .., next⟩
        · exact ⟨u, List.mem_cons_of_mem _ u_mem, next⟩
    have fresh_inner : ∀ a ∈ id :: ids inner, a ∉ seen := by
      rw [List.forall_mem_cons]
      exact ⟨fresh, fun a mem known => below.not_mem_seen a mem (List.mem_append_left _ known)⟩
    obtain ⟨outer', later', rest', mirror_rest⟩ :=
      ihRest others (tracks.rest sub leg apart old_inner fresh_inner new_inner)
    have one : Explores h (path' ++ via) (seen' ++ via) [id] (⟨path' ++ via, id⟩ :: inner')
        found' := by
      simpa using Explores.enter fresh' below' .nil
    exact ⟨_, _, leg.explores (tracks.via_fresh leg) one rest',
      .cons (⟨path, id⟩ :: inner) (⟨path' ++ via, id⟩ :: inner') leg old_inner mirror.cycles_eq
        new_inner mirror_rest⟩
  | @close path seen id targets visits found before after split rest ih =>
    obtain _ | @⟨_, first, via, _, firsts, off, leg, apart, others⟩ := detours
    obtain ⟨before', after', split', after_eq⟩ := exists_split (tracks.path_eq.trans split)
    have tracks_rest := tracks.rest sub leg apart (old_nil ins) (by simp) (by simp)
    rw [List.append_nil] at tracks_rest
    obtain ⟨outer', later', rest', mirror⟩ := ih others tracks_rest
    have one : Explores h (path' ++ via) (seen' ++ via) [id] [] [id :: (after' ++ via ++ [id])] :=
      .close (by rw [split', List.append_assoc, List.cons_append]) .nil
    have cycle_eq : [id :: (after' ++ via ++ [id])].map (old ins) = [id :: (after ++ [id])] := by
      simp [old_cons_of_not_mem off, leg.old_via, after_eq]
    exact ⟨_, _, leg.explores (tracks.via_fresh leg) one rest',
      .cons [] [] leg (old_nil ins) cycle_eq (by simp) mirror⟩
  | @skip path seen id targets visits found known away rest ih =>
    obtain _ | @⟨_, first, via, _, firsts, off, leg, apart, others⟩ := detours
    have tracks_rest := tracks.rest sub leg apart (old_nil ins) (by simp) (by simp)
    rw [List.append_nil] at tracks_rest
    obtain ⟨outer', later', rest', mirror⟩ := ih others tracks_rest
    have known' : id ∈ seen' ++ via := List.mem_append_left _ (tracks.mem_seen.mp known).1
    have away' : id ∉ path' ++ via := by
      have not_via : id ∉ via := fun mem => off (leg.new id mem)
      have out : id ∉ path' := fun mem => away (tracks.mem_path.mpr ⟨mem, off⟩)
      simp [out, not_via]
    exact ⟨_, _, leg.explores (tracks.via_fresh leg) (.skip known' away' .nil) rest',
      .cons [] [] leg (old_nil ins) List.map_nil (by simp) mirror⟩

end

end Dataflow.Graph.Cycle
