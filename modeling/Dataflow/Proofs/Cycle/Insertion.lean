import Dataflow.Proofs.Cycle.Subdivision

/-! What inserting nodes does to the cycles found.

The inserted nodes come after the others, so a search has visited all that the nodes
lead to when it starts from them, and finds nothing there; vertices that only edges name
come last (`Insertion`). Without the inserted ids, each path noted once, the paths are
those found before the insertion (`Insertion.paths_eq`). -/
namespace Dataflow.Graph.Cycle

/-! ### Noting images -/

namespace Search

theorem noteAll_map (f : List String → List String) (found cycles : List (List String)) :
    noteAll [] ((noteAll found cycles).map f) =
      noteAll (noteAll [] (found.map f)) (cycles.map f) := by
  induction cycles generalizing found with
  | nil => rfl
  | cons cycle cycles ih =>
    have once : noteAll [] ((noteAll found [cycle]).map f) =
        noteAll (noteAll [] (found.map f)) [f cycle] := by
      by_cases mem : cycle ∈ found
      · have image : f cycle ∈ noteAll [] (found.map f) := by
          rw [noteAll_nil, List.mem_eraseDups]
          exact List.mem_map_of_mem mem
        rw [noteAll_of_mem mem, noteAll_of_mem image]
      · rw [noteAll_of_not_mem mem, List.map_append, noteAll_append]
        rfl
    rw [← List.singleton_append, noteAll_append, ih, once, List.map_append, noteAll_append]
    rfl

end Search

/-- Repetitions may be erased before a map as well as after it. -/
theorem eraseDups_map_eraseDups (f : List String → List String) (cycles : List (List String)) :
    (cycles.eraseDups.map f).eraseDups = (cycles.map f).eraseDups := by
  have images := Search.noteAll_map f [] cycles
  rwa [Search.noteAll_nil, Search.noteAll_nil, List.map_nil, Search.noteAll_nil, List.eraseDups_nil,
    Search.noteAll_nil] at images

/-! ### Roots -/

namespace Explores

variable {g : Graph} {seen roots : List String} {visits : List Visit}
  {cycles : List (List String)}

/-- Roots that were visited may be left out. -/
theorem distinctFrom (h : Explores g [] seen roots visits cycles) {known : Std.TreeSet String}
    (visited : ∀ id ∈ known, id ∈ seen) :
    Explores g [] seen (distinctFrom known roots) visits cycles := by
  induction roots generalizing seen visits cycles known with
  | nil => exact h
  | cons id roots ih =>
    rw [Graph.distinctFrom]
    cases h with
    | @enter _ _ _ _ inner outer found later fresh below rest =>
      have new : id ∉ known := fun mem => fresh (visited id mem)
      rw [if_neg new]
      apply Explores.enter fresh below
      apply ih rest
      intro a mem
      rw [Std.TreeSet.mem_insert, Std.LawfulEqCmp.compare_eq_iff_eq] at mem
      rcases mem with rfl | mem
      · simp
      · exact List.mem_append_left _ (visited a mem)
    | close split => simp at split
    | skip known_id off rest =>
      split
      · exact ih rest visited
      · apply Explores.skip known_id off
        apply ih rest
        intro a mem
        rw [Std.TreeSet.mem_insert, Std.LawfulEqCmp.compare_eq_iff_eq] at mem
        rcases mem with rfl | mem
        · exact known_id
        · exact visited a mem

theorem distinct (h : Explores g [] [] roots visits cycles) :
    Explores g [] [] (distinct roots) visits cycles :=
  h.distinctFrom (by simp)

/-- Roots that were visited may be put in. -/
theorem of_filter {p : String → Bool} (h : Explores g [] seen (roots.filter p) visits cycles)
    (visited : ∀ id ∈ roots, p id = false → id ∈ seen) :
    Explores g [] seen roots visits cycles := by
  induction roots generalizing seen visits cycles with
  | nil => exact h
  | cons id roots ih =>
    simp only [List.forall_mem_cons] at visited
    cases keep : p id with
    | false =>
      rw [List.filter_cons_of_neg (by simp [keep])] at h
      exact .skip (visited.1 keep) (by simp) (ih h visited.2)
    | true =>
      rw [List.filter_cons_of_pos keep] at h
      cases h with
      | enter fresh below rest =>
        exact .enter fresh below
          (ih rest fun a mem out => List.mem_append_left _ (visited.2 a mem out))
      | close split => simp at split
      | skip known off rest => exact .skip known off (ih rest visited.2)

/-- From a root whose successors were all visited nothing else is come to. -/
theorem exists_of_successors (g : Graph) (seen : List String)
    (visited : ∀ id ∈ roots, ∀ next ∈ g.successors id, next ∈ seen ∧ next ≠ id) :
    ∃ visits, Explores g [] seen roots visits [] ∧ ∀ id ∈ ids visits, id ∈ roots := by
  induction roots generalizing seen with
  | nil => exact ⟨[], .nil, by simp⟩
  | cons id roots ih =>
    simp only [List.forall_mem_cons] at visited
    by_cases known : id ∈ seen
    · obtain ⟨visits, rest, sub⟩ := ih seen visited.2
      exact ⟨visits, .skip known (by simp) rest, fun a mem => List.mem_cons_of_mem _ (sub a mem)⟩
    · have below : Explores g ([] ++ [id]) (seen ++ [id]) (g.successors id) [] [] :=
        skipAll (fun next mem => List.mem_append_left _ (visited.1 next mem).1)
          fun next mem => by simpa using (visited.1 next mem).2
      obtain ⟨visits, rest, sub⟩ := ih (seen ++ id :: ids []) fun a mem next arc =>
        ⟨List.mem_append_left _ (visited.2 a mem next arc).1, (visited.2 a mem next arc).2⟩
      refine ⟨_, .enter known below rest, ?_⟩
      simp only [List.nil_append, ids_cons, List.forall_mem_cons]
      exact ⟨List.mem_cons_self .., fun a mem => List.mem_cons_of_mem _ (sub a mem)⟩

end Explores

/-! ### Insertions -/

/-- Nodes are inserted behind others: they subdivide arcs, or lead to other nodes. All
arcs into them come from the other nodes, and all arcs out of them go there. -/
structure Insertion (nodes added : List Node) (edges edges' : List Edge) : Prop where
  sub : Subdivides (added.map (·.id)) (ofLists (nodes ++ added) edges') (ofLists nodes edges)
  into : ∀ c ∈ added.map (·.id), ∀ u, Arc edges' u c → u ∈ nodes.map (·.id)
  out : ∀ c ∈ added.map (·.id), ∀ t, Arc edges' c t → t ∈ nodes.map (·.id)
  apart : ∀ id ∈ nodes.map (·.id), id ∉ added.map (·.id)
  ends : ∃ known, (∀ id ∈ known, id ∈ nodes.map (·.id)) ∧
    old (added.map (·.id)) (endpoints edges') = endpoints edges ++ known

namespace Insertion

variable {nodes added : List Node} {edges edges' : List Edge}

/-- No edge named the id of an inserted node. -/
theorem not_mem_of_endpoint (ins : Insertion nodes added edges edges') :
    ∀ id ∈ endpoints edges, id ∉ added.map (·.id) := by
  intro id mem
  obtain ⟨known, -, ends⟩ := ins.ends
  have left : id ∈ old (added.map (·.id)) (endpoints edges') := by
    rw [ends]
    exact List.mem_append_left _ mem
  exact (mem_old.mp left).2

/-- The nodes are explored alike in both graphs. -/
theorem exists_nodes (ins : Insertion nodes added edges edges') {visits : List Visit}
    {cycles : List (List String)}
    (explores : Explores (ofLists nodes edges) [] [] (nodes.map (·.id)) visits cycles) :
    ∃ visits' cycles',
      Explores (ofLists (nodes ++ added) edges') [] [] (nodes.map (·.id)) visits' cycles' ∧
      Mirrors (added.map (·.id)) (ofLists (nodes ++ added) edges') (nodes.map (·.id))
        visits visits' cycles cycles' :=
  ins.sub.exists_mirror explores (.refl ins.apart) {
    path_eq := rfl
    seen_eq := rfl
    pending := by simp
    later := by
      intro u _ _ c next new
      refine ⟨by simp, fun mem => ins.apart c mem new⟩ }

/-- What only edges name is explored alike, once the nodes and the inserted nodes were
visited. -/
theorem exists_ghosts (ins : Insertion nodes added edges edges') {seen seen' : List String}
    (seen_eq : old (added.map (·.id)) seen' = seen) (visited : ∀ id ∈ nodes.map (·.id), id ∈ seen)
    {visits : List Visit} {cycles : List (List String)}
    (explores : Explores (ofLists nodes edges) [] seen (endpoints edges) visits cycles) :
    ∃ visits' cycles',
      Explores (ofLists (nodes ++ added) edges') [] seen' (endpoints edges) visits' cycles' ∧
      Mirrors (added.map (·.id)) (ofLists (nodes ++ added) edges') (endpoints edges)
        visits visits' cycles cycles' := by
  have off := ins.not_mem_of_endpoint
  exact ins.sub.exists_mirror explores (.refl off) {
    path_eq := rfl
    seen_eq
    pending := fun c mem new => absurd new (off c mem)
    later := fun u _ out c next new =>
      absurd (visited u (ins.into c new u (mem_successors_ofLists.mp next))) out }

/-- **Inserted nodes leave the paths as they are**, but for their own ids: taken without
these, and each noted once, the paths found are those found before. -/
theorem paths_eq (ins : Insertion nodes added edges edges') :
    ((paths (ofLists (nodes ++ added) edges')).map (old (added.map (·.id)))).eraseDups =
      paths (ofLists nodes edges) := by
  -- The nodes first.
  obtain ⟨visits, cycles, explores⟩ := exists_explores (g := ofLists nodes edges) closed_ofLists
    [] [] (nodes.map (·.id)) fun id mem => mem_distinct.mpr (List.mem_append_left _ mem)
  obtain ⟨visits', cycles', explores', mirror⟩ := ins.exists_nodes explores
  have visited : ∀ id ∈ nodes.map (·.id), id ∈ ids visits := by
    simpa using explores.target_mem (by simp)
  have visited' : ∀ id ∈ nodes.map (·.id), id ∈ ids visits' := by
    simpa using explores'.target_mem (by simp)
  -- Then the inserted ones, which find nothing.
  obtain ⟨passed, through, passed_new⟩ := Explores.exists_of_successors
    (ofLists (nodes ++ added) edges') (ids visits') fun c new t next => by
      have node := ins.out c new t (mem_successors_ofLists.mp next)
      exact ⟨visited' t node, fun eq => ins.apart t node (eq ▸ new)⟩
  have new_mem : ∀ id ∈ added.map (·.id), id ∈ ids visits' ++ ids passed :=
    through.target_mem (by simp)
  have seen_eq : old (added.map (·.id)) (ids visits' ++ ids passed) = ids visits := by
    rw [old_append, mirror.ids_eq, old_eq_nil passed_new, List.append_nil]
  -- Then what only edges name.
  obtain ⟨more, later, ghosts⟩ := exists_explores (g := ofLists nodes edges) closed_ofLists
    [] (ids visits) (endpoints edges) fun id mem => mem_vertices_of_mem_endpoints mem
  obtain ⟨more', later', ghosts', mirror_ghosts⟩ := ins.exists_ghosts seen_eq visited ghosts
  have all : Explores (ofLists nodes edges) [] [] (ofLists nodes edges).vertices
      (visits ++ more) (cycles ++ later) := (explores.append ghosts).distinct
  obtain ⟨known, known_nodes, ends⟩ := ins.ends
  have rest : Explores (ofLists (nodes ++ added) edges') [] (ids visits' ++ ids passed)
      (endpoints edges') more' later' := by
    have skip : Explores (ofLists (nodes ++ added) edges') []
        (ids visits' ++ ids passed ++ ids more') known [] [] :=
      .skipAll (fun id mem => by simp [visited' id (known_nodes id mem)]) (by simp)
    have others := ghosts'.append skip
    rw [← ends, List.append_nil, List.append_nil] at others
    exact Explores.of_filter others fun id _ out => new_mem id (by simpa using out)
  have all' : Explores (ofLists (nodes ++ added) edges') [] []
      (ofLists (nodes ++ added) edges').vertices (visits' ++ (passed ++ more'))
      (cycles' ++ ([] ++ later')) := by
    rw [vertices_ofLists, List.map_append, List.append_assoc]
    exact (explores'.append (through.append (by simpa using rest))).distinct
  rw [paths_of_explores all, paths_of_explores all', eraseDups_map_eraseDups, List.nil_append,
    List.map_append, mirror.cycles_eq, mirror_ghosts.cycles_eq]

end Insertion

end Dataflow.Graph.Cycle
