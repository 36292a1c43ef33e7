import Dataflow.Proofs.Cycle.Distinct

/-! What the cycle check reports of a draft.

It reports something just if the edges form a cycle, and only simple cycles of them
(`check_simpleCycles`); and the reported cycles account for all others, each by an arc
and by ids of its own (`closingArcs_of_check`). -/
namespace Dataflow.Graph.Cycle

/-- The cycles that some issues report. -/
def cyclePaths (issues : List Issue) : List (List String) :=
  (issues.filter fun issue => issue.kind == .cycle).filterMap (·.path)

theorem cyclePaths_append (a b : List Issue) :
    cyclePaths (a ++ b) = cyclePaths a ++ cyclePaths b := by
  simp [cyclePaths]

theorem cyclePaths_check (draft : Draft) : cyclePaths (check draft) = paths (ofDraft draft) := by
  simp [cyclePaths, check, List.filterMap_map, Function.comp_def, List.filter_map, Issue.ofCycle,
    Issue.general]

/-- An arc leads to a successor. -/
def Adjacent (g : Graph) (u v : String) : Prop := v ∈ g.successors u

section
variable {nodes : List Node} {edges : List Edge}

theorem adjacent_ofLists : Adjacent (ofLists nodes edges) = Arc edges := by
  funext u v
  exact propext mem_successors_ofLists

/-- What the cycles found come from. -/
theorem exists_forest (nodes : List Node) (edges : List Edge) :
    ∃ visits, Forest visits ∧
      ∀ cycle ∈ paths (ofLists nodes edges), ∃ v ∈ visits, ClosedOn v.path cycle := by
  obtain ⟨visits, cycles, h⟩ := exists_exploration nodes edges
  refine ⟨visits, h.forest, fun cycle mem => ?_⟩
  rw [paths_of_explores h, List.mem_eraseDups] at mem
  rcases h.closedOn cycle mem with ⟨before, id, after, split, -⟩ | found
  · simp at split
  · exact found

theorem simpleCycle_of_mem_paths :
    ∀ path ∈ paths (ofLists nodes edges), SimpleCycle (Arc edges) path := by
  intro path mem
  obtain ⟨visits, cycles, h⟩ := exists_exploration nodes edges
  rw [paths_of_explores h, List.mem_eraseDups] at mem
  exact h.simpleCycle (fun u v => mem_successors_ofLists.mp) .nil .nil (by simp) (by simp) path mem

theorem acyclic_of_acc {R : String → String → Prop}
    (acc : ∀ u v, R u v → Acc (Function.swap R) u) : ¬ Cyclic R := by
  intro cyclic
  obtain ⟨id, cycle⟩ := cyclic
  obtain ⟨next, first, -⟩ := Relation.TransGen.head'_iff.mp cycle
  have back : Relation.TransGen (Function.swap R) id id := Relation.transGen_swap.mpr cycle
  have no_loop := (acc id next first).transGen
  clear cycle first
  induction no_loop with
  | intro a _ ih => exact ih a back back

/-- Arcs among which no cycle found is closed form no cycle. -/
theorem acyclic_of_cut (nodes : List Node) (edges : List Edge) {R : String → String → Prop}
    (sub : ∀ u v, R u v → Arc edges u v)
    (cut : ∀ path ∈ paths (ofLists nodes edges), ∀ u v, closingArc path = some (u, v) → ¬ R u v) :
    ¬ Cyclic R := by
  obtain ⟨visits, cycles, h⟩ := exists_exploration nodes edges
  simp only [paths_of_explores h, List.mem_eraseDups] at cut
  obtain ⟨acc, -⟩ := h.acc (fun u v arc => mem_successors_ofLists.mpr (sub u v arc)) cut (by simp)
  apply acyclic_of_acc
  intro u v arc
  apply acc
  rw [(ids_perm_vertices h).mem_iff]
  exact (mem_vertices_of_arc (sub u v arc)).1

/-- A simple cycle is a cycle. -/
theorem SimpleCycle.cyclic {R : String → String → Prop} {path : List String}
    (h : SimpleCycle R path) : Cyclic R := by
  match path, h with
  | a :: b :: rest, h =>
    refine ⟨a, ?_⟩
    have closed : (a :: b :: rest).getLast? = some a := h.closed.symm
    have last : (b :: rest).getLast (List.cons_ne_nil b rest) = a := by
      simpa [List.getLast?_eq_getLast_of_ne_nil] using closed
    have along := List.isChain_cons_cons.mp h.along
    exact .head' along.1 (List.relationReflTransGen_of_exists_isChain_cons rest along.2 last)
  | [_], h => exact absurd h.two_le (by simp)
  | [], h => exact absurd h.two_le (by simp)

theorem nodup_paths : (paths (ofLists nodes edges)).Nodup := by
  obtain ⟨visits, cycles, h⟩ := exists_exploration nodes edges
  rw [paths_of_explores h, ← Search.noteAll_nil]
  exact Search.nodup_noteAll .nil cycles

theorem paths_ne_nil_iff : paths (ofLists nodes edges) ≠ [] ↔ Cyclic (Arc edges) := by
  constructor
  · intro some
    obtain ⟨path, mem⟩ := List.exists_mem_of_ne_nil _ some
    exact (simpleCycle_of_mem_paths path mem).cyclic
  · intro cyclic none
    exact acyclic_of_cut nodes edges (fun _ _ arc => arc) (by simp [none]) cyclic

end

theorem check_ne_nil_iff (draft : Draft) :
    check draft ≠ [] ↔ Cyclic (Arc draft.edges.toList) := by
  rw [check, ne_eq, List.map_eq_nil_iff]
  exact paths_ne_nil_iff

/-- **The check reports something just if the edges form a cycle**, and every path that it
reports is a simple cycle. A test that tells cyclic graphs from others may stand before
the search: it hides no path, and behind it the search never finds nothing. -/
theorem check_simpleCycles (draft : Draft) :
    (check draft ≠ [] ↔ Cyclic (Arc draft.edges.toList)) ∧
    (∀ issue ∈ check draft, ∃ path,
      issue = .ofCycle path ∧ SimpleCycle (Arc draft.edges.toList) path) ∧
    ∀ cyclic : Graph → Bool,
      (cyclic (ofDraft draft) = true ↔ Cyclic (Adjacent (ofDraft draft))) →
      checkIf cyclic draft = check draft ∧
        (cyclic (ofDraft draft) = true → paths (ofDraft draft) ≠ []) := by
  refine ⟨check_ne_nil_iff draft, ?_, ?_⟩
  · intro issue mem
    obtain ⟨path, found, rfl⟩ := List.mem_map.mp mem
    exact ⟨path, rfl, simpleCycle_of_mem_paths path found⟩
  · intro cyclic decides
    rw [ofDraft, adjacent_ofLists, ← @paths_ne_nil_iff draft.nodes.toList] at decides
    refine ⟨?_, decides.mp⟩
    unfold checkIf
    split
    · rfl
    · next no =>
      have none : paths (ofDraft draft) = [] := not_not.mp fun some => no (decides.mpr some)
      rw [check, none, List.map_nil]

/-- On a loop through a node that does not exist, behind the search itself as the test. -/
theorem check_simpleCycles_ghost :
    let draft := Draft.ofLists [] [⟨"e", "a", "ghost", none, none⟩, ⟨"f", "ghost", "a", none, none⟩]
    let cyclic : Graph → Bool := fun g => !(paths g).isEmpty
    (cyclic (ofDraft draft) = true ↔ Cyclic (Adjacent (ofDraft draft))) ∧
      checkIf cyclic draft = check draft := by
  intro draft cyclic
  have found : cyclic (ofDraft draft) = true := by decide +kernel
  have out : "ghost" ∈ (ofDraft draft).successors "a" := by decide
  have back : "a" ∈ (ofDraft draft).successors "ghost" := by decide
  have decides : cyclic (ofDraft draft) = true ↔ Cyclic (Adjacent (ofDraft draft)) :=
    ⟨fun _ => ⟨"a", .tail (.single out) back⟩, fun _ => found⟩
  exact ⟨decides, ((check_simpleCycles draft).2.2 cyclic decides).1⟩

/-- **The reported cycles account for all others.** Without the arcs that close them no
cycle is left; no two of them are closed by one arc, and no two run through the same
ids. -/
theorem closingArcs_of_check (draft : Draft) :
    (¬ Cyclic (Arc (draft.edges.toList.filter fun e =>
      some (e.source, e.target) ∉ (cyclePaths (check draft)).map closingArc))) ∧
    (cyclePaths (check draft)).Pairwise (fun a b => closingArc a ≠ closingArc b) ∧
    (cyclePaths (check draft)).Pairwise fun a b => ¬ ∀ id, id ∈ a ↔ id ∈ b := by
  rw [cyclePaths_check]
  obtain ⟨visits, forest, closed⟩ := exists_forest draft.nodes.toList draft.edges.toList
  refine ⟨acyclic_of_cut draft.nodes.toList draft.edges.toList ?_ ?_, ?_, ?_⟩
  · intro u v arc
    obtain ⟨e, mem, ends⟩ := arc
    exact ⟨e, (List.mem_filter.mp mem).1, ends⟩
  · intro path found u v closing arc
    obtain ⟨e, mem, rfl, rfl⟩ := arc
    simp only [List.mem_filter, decide_eq_true_eq] at mem
    exact mem.2 (List.mem_map.mpr ⟨path, found, closing⟩)
  · apply nodup_paths.pairwise_of_forall_ne
    intro a ha b hb ne eq
    apply ne
    obtain ⟨v, hv, on_v⟩ := closed a ha
    obtain ⟨w, hw, on_w⟩ := closed b hb
    exact forest.eq_of_closingArc hv hw on_v on_w eq
  · apply nodup_paths.pairwise_of_forall_ne
    intro a ha b hb ne same
    apply ne
    obtain ⟨v, hv, on_v⟩ := closed a ha
    obtain ⟨w, hw, on_w⟩ := closed b hb
    exact forest.eq_of_mem_iff hv hw on_v on_w same

end Dataflow.Graph.Cycle
