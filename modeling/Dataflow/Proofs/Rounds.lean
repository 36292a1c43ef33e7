import Dataflow.Proofs.Noninterference

/-! Rounds of validation, each on what the one before it left.

A run that inserts nothing leaves the edges that it was given, and the nodes completed
(`Stages.left_of_idle`). To complete these again changes nothing, and everything else in a run
is a matter of ids and types, which are the same (`Stages.alike_run`). So the next round inserts
nothing either, though it may have tried in vain, and it reports the same but for entries that
are filled by now (`repeats_of_idle`); nor do the rounds after it change anything. -/
namespace Dataflow

/-- A result that leaves what another one left, and reports no more: only entries may be
reported no longer. -/
structure Repeats (first again : Result) : Prop where
  fixedNodes : again.fixedNodes = first.fixedNodes
  fixedEdges : again.fixedEdges = first.fixedEdges
  insertedNodes : again.insertedNodes = []
  issues : again.issues.Sublist first.issues
  besidesConfig : again.besidesConfig = first.besidesConfig
  valid : first.valid = true → again.valid = true

theorem Repeats.trans {a b c : Result} (ab : Repeats a b) (bc : Repeats b c) : Repeats a c where
  fixedNodes := bc.fixedNodes.trans ab.fixedNodes
  fixedEdges := bc.fixedEdges.trans ab.fixedEdges
  insertedNodes := bc.insertedNodes
  issues := bc.issues.trans ab.issues
  besidesConfig := bc.besidesConfig.trans ab.besidesConfig
  valid := bc.valid ∘ ab.valid

/-- The result of every round. -/
def rounds (catalog : NodeCatalog) (options : Options) (nodes : List Node) (edges : List Edge) :
    Nat → Result
  | 0 => validate catalog options nodes edges
  | n + 1 =>
    let last := rounds catalog options nodes edges n
    validate catalog options last.fixedNodes last.fixedEdges

namespace Stages

section
variable {catalog : NodeCatalog} {options : Options} {nodes : List Node} {edges : List Edge}

/-- A run that inserts nothing completes the nodes, and leaves the edges. -/
theorem left_of_idle (idle : (validate catalog options nodes edges).insertedNodes = []) :
    (validate catalog options nodes edges).fixedNodes = (Completion.ofNodes catalog nodes).nodes ∧
      (validate catalog options nodes edges).fixedEdges = edges := by
  obtain ⟨autoFix, offset⟩ := options
  cases autoFix with
  | false =>
    exact ⟨fixedNodes_plain catalog nodes edges offset, fixedEdges_plain catalog nodes edges offset⟩
  | true =>
    obtain ⟨feeds, detours, repairs⟩ := exists_repairs catalog nodes edges offset
    -- Nothing inserted means that no node was fed and no edge converted.
    have none : (run catalog ⟨true, offset⟩ nodes edges).result.insertedNodes = [] := idle
    have nodes_eq := repairs.fixedNodes_eq rfl
    rw [none, List.append_nil] at nodes_eq
    rw [repairs.insertedNodes_eq, List.append_eq_nil_iff, repairs.sources_eq rfl,
      repairs.converters_eq, List.map_eq_nil_iff, List.map_eq_nil_iff] at none
    obtain ⟨rfl, rfl⟩ := none
    have kept := repairs.converting.carried.edges_eq rfl
    rw [repairs.ports, Repair.Converter.edges_plans, repairs.feeding.edges, List.map_nil,
      List.append_nil] at kept
    exact ⟨nodes_eq, kept⟩

end

/-- Nothing is blocking where less is reported than where nothing is. -/
theorem valid_of_sublist {s s' : Stages} (fewer : s'.issues.Sublist s.issues)
    (valid : s.result.valid = true) : s'.result.valid = true := by
  simp only [result, Bool.not_eq_true', List.any_eq_false] at valid ⊢
  exact fun issue mem => valid issue (fewer.subset mem)

/-- On completed nodes, a run reports a part of what it reports on the nodes before. -/
theorem sublist_issues_run (catalog : NodeCatalog) (autoFix : Bool) (offset : Float)
    (nodes : List Node) (edges : List Edge) :
    (run catalog ⟨autoFix, offset⟩ (Completion.ofNodes catalog nodes).nodes edges).issues.Sublist
      (run catalog ⟨autoFix, offset⟩ nodes edges).issues := by
  have alike := alike_run catalog edges (Completion.outlines_ofNodes catalog nodes) autoFix offset
    offset
  rw [issues, issues, alike.inputs, alike.fed.issues, alike.ports, alike.converted.issues,
    alike.cycles]
  have completed := Completion.sublist_ofNodes catalog nodes
  exact ((((completed.append_right _).append_right _).append_right _).append_right _).append_right _

end Stages

/-- **After a round that inserts nothing**, the next one repeats it. -/
theorem repeats_of_idle {catalog : NodeCatalog} {options : Options} {nodes : List Node}
    {edges : List Edge} (idle : (validate catalog options nodes edges).insertedNodes = []) :
    Repeats (validate catalog options nodes edges) (validate catalog options
      (validate catalog options nodes edges).fixedNodes
      (validate catalog options nodes edges).fixedEdges) := by
  obtain ⟨autoFix, offset⟩ := options
  obtain ⟨left_nodes, left_edges⟩ := Stages.left_of_idle idle
  rw [left_nodes, left_edges]
  have same := Completion.outlines_ofNodes catalog nodes
  have alike := Stages.alike_run catalog edges same autoFix offset offset
  have fewer := Stages.sublist_issues_run catalog autoFix offset nodes edges
  -- What was tried in vain on the given nodes is tried in vain on the completed ones.
  have again_idle : (validate catalog ⟨autoFix, offset⟩ (Completion.ofNodes catalog nodes).nodes
      edges).insertedNodes = [] := by
    have inserted := alike.converted.draft.inserted
    have none : (Stages.run catalog ⟨autoFix, offset⟩ nodes edges).converted.draft.inserted.toList =
      [] := idle
    rw [none, List.map_nil, List.map_eq_nil_iff] at inserted
    exact inserted
  obtain ⟨again_nodes, again_edges⟩ := Stages.left_of_idle again_idle
  exact {
    fixedNodes := by rw [again_nodes, left_nodes, Completion.ofNodes_nodes]
    fixedEdges := by rw [again_edges, left_edges]
    insertedNodes := again_idle
    issues := fewer
    besidesConfig := Stages.besidesConfig_run catalog edges same autoFix offset offset
    valid := Stages.valid_of_sublist fewer }

/-- **A round that inserts nothing is the last one that changes anything.** All rounds after it
leave the nodes and edges that it left, insert nothing, and report what it reported, but for entries
that may be reported no longer; so once a workflow is found valid, it stays so. -/
theorem rounds_of_idle (catalog : NodeCatalog) (options : Options) (nodes : List Node)
    (edges : List Edge) (idle : (validate catalog options nodes edges).insertedNodes = []) :
    let round := rounds catalog options nodes edges
    ∀ m n, m < n → Repeats (round m) (round n) := by
  intro round m n lt
  have next (n : Nat) : Repeats (round n) (round (n + 1)) := by
    induction n with
    | zero => exact repeats_of_idle idle
    | succ n ih => exact repeats_of_idle ih.insertedNodes
  induction lt with
  | refl => exact next m
  | step _ ih => exact ih.trans (next _)

/-- Two nodes share an id, so that the input that the second one lacks is never fed. A field is
filled with the empty text in every round, and reported again under the same key, which has no
default there; the other field is filled once. -/
theorem rounds_of_idle_shared :
    let port (required : Bool) : PortDefinition := ⟨"port", "text", required⟩
    let catalog : Catalog := ⟨[⟨"note", ⟨[], [port false]⟩, []⟩,
      ⟨"index", ⟨[port true], []⟩, [⟨"title", true, some (.string "")⟩, ⟨"title", true, none⟩,
        ⟨"mode", true, some (.string "plain")⟩]⟩], by decide⟩
    let nodes : List Node := [⟨"a", "note", .origin, []⟩, ⟨"a", "index", .origin, []⟩]
    let round := rounds catalog ⟨true, 250⟩ nodes []
    (validate catalog ⟨true, 250⟩ nodes []).insertedNodes = [] ∧
      (round 0).issues.map (·.kind) = [.autoFilledConfig, .missingRequiredConfig, .autoFilledConfig,
        .missingRequiredInput] ∧
      (round 2).issues.map (·.kind) = [.autoFilledConfig, .missingRequiredConfig,
        .missingRequiredInput] ∧
      Repeats (round 0) (round 2) := by
  intro port catalog nodes round
  have idle : (validate catalog ⟨true, 250⟩ nodes []).insertedNodes = [] :=
    List.isEmpty_iff.mp (by decide +kernel)
  exact ⟨idle, by decide +kernel, by decide +kernel,
    rounds_of_idle catalog ⟨true, 250⟩ nodes [] idle 0 2 (by decide)⟩

end Dataflow
