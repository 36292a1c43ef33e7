import Dataflow.Proofs.Reports

/-! Edges to nodes that do not exist.

The port check reports an end of an edge as unknown just if no node carries its id
(`unknownSource_mem_check_iff`, `unknownTarget_mem_check_iff`). With repair the nodes are
those of the workflow and the sources that were inserted by then. A source gets an id that no
node carries, but an edge may name it; so such an end is reported, and the workflow is
invalid, just if no source took its id (`dangling_of_repair`). -/
namespace Dataflow

namespace Port.Ends

/-! ### What is said of a missing node -/

section
variable {e e' : Edge}

theorem source_eq_of_unknownSource_eq (same : unknownSource e = unknownSource e') :
    e.source = e'.source := by
  have id : e.id = e'.id := Option.some.inj (congrArg Issue.edgeId same)
  have text : "Edge '" ++ e.id ++ "' references unknown source node '" ++ e.source ++ "'" =
      "Edge '" ++ e'.id ++ "' references unknown source node '" ++ e'.source ++ "'" :=
    congrArg Issue.message same
  rwa [id, String.append_left_inj, String.append_right_inj] at text

theorem target_eq_of_unknownTarget_eq (same : unknownTarget e = unknownTarget e') :
    e.target = e'.target := by
  have id : e.id = e'.id := Option.some.inj (congrArg Issue.edgeId same)
  have text : "Edge '" ++ e.id ++ "' references unknown target node '" ++ e.target ++ "'" =
      "Edge '" ++ e'.id ++ "' references unknown target node '" ++ e'.target ++ "'" :=
    congrArg Issue.message same
  rwa [id, String.append_left_inj, String.append_right_inj] at text

theorem unknownSource_ne_unknownTarget : unknownSource e ≠ unknownTarget e' := by
  intro same
  have id : e.id = e'.id := Option.some.inj (congrArg Issue.edgeId same)
  have text : "Edge '" ++ e.id ++ "' references unknown source node '" ++ e.source ++ "'" =
      "Edge '" ++ e'.id ++ "' references unknown target node '" ++ e'.target ++ "'" :=
    congrArg Issue.message same
  have letters := congrArg String.toList text
  simp [id] at letters

end

/-! ### When it is said -/

section
variable {catalog : NodeCatalog} {draft : Draft} {e : Edge}

/-- The structural issues of an edge are about its ends that are no nodes. -/
theorem mem_issues_structural_iff {issue : Issue} (kind : issue.kind = .structuralEdge) :
    issue ∈ issues e (ofEdge catalog draft e) ↔
      (draft.node? e.source = none ∧ issue = unknownSource e) ∨
        (draft.node? e.target = none ∧ issue = unknownTarget e) := by
  have other {edge : Edge} {other : IssueKind} {message : String} (ne : other ≠ .structuralEdge) :
      issue ≠ .ofEdge other edge.id message := fun eq => ne (kind ▸ eq ▸ rfl)
  rw [mem_issues_iff, ofEdge]
  cases draft.node? e.source with
  | none => simp
  | some source =>
    cases draft.node? e.target with
    | none => simp
    | some target =>
      simp only [reduceCtorEq, false_and, or_self, iff_false]
      split
      · next found => split at found <;> cases found
      · exact other (by decide)
      · rintro (⟨converter, -, eq⟩ | ⟨-, eq⟩)
        · exact other (by decide) eq
        · exact other (by decide) eq

/-- An edge's source is reported just if it is no node, though edges may share their ids. -/
theorem unknownSource_mem_check_iff (mem : e ∈ draft.edges.toList) :
    unknownSource e ∈ check catalog draft ↔ draft.node? e.source = none := by
  rw [check, List.mem_flatMap]
  constructor
  · intro reported
    obtain ⟨e', -, reported⟩ := reported
    rcases (mem_issues_structural_iff rfl).mp reported with ⟨none, same⟩ | ⟨-, same⟩
    · rwa [source_eq_of_unknownSource_eq same]
    · exact absurd same unknownSource_ne_unknownTarget
  · exact fun none => ⟨e, mem, (mem_issues_structural_iff rfl).mpr (.inl ⟨none, rfl⟩)⟩

theorem unknownTarget_mem_check_iff (mem : e ∈ draft.edges.toList) :
    unknownTarget e ∈ check catalog draft ↔ draft.node? e.target = none := by
  rw [check, List.mem_flatMap]
  constructor
  · intro reported
    obtain ⟨e', -, reported⟩ := reported
    rcases (mem_issues_structural_iff rfl).mp reported with ⟨-, same⟩ | ⟨none, same⟩
    · exact absurd same.symm unknownSource_ne_unknownTarget
    · rwa [target_eq_of_unknownTarget_eq same]
  · exact fun none => ⟨e, mem, (mem_issues_structural_iff rfl).mpr (.inr ⟨none, rfl⟩)⟩

end

end Port.Ends

namespace Stages

section
variable (catalog : NodeCatalog) (nodes : List Node) (edges : List Edge) (offset : Float)

/-- When ports are checked the nodes are those of the workflow and the sources. -/
theorem node?_fed_eq_none_iff {id : String} (off : ∀ node ∈ nodes, node.id ≠ id) :
    (run catalog ⟨true, offset⟩ nodes edges).fed.draft.node? id = none ↔
      ∀ source ∈ (run catalog ⟨true, offset⟩ nodes edges).sources, source.id ≠ id := by
  obtain ⟨feeds, detours, repairs⟩ := exists_repairs catalog nodes edges offset
  have completed : ∀ node ∈ (draft catalog nodes edges).nodes.toList, node.id ≠ id := by
    simpa [draft, Draft.ofLists, Completion.ofNodes, Completion.completeNode_id] using off
  rw [repairs.feeding.indexed.node?_eq_find?, List.find?_eq_none, repairs.nodes_fed rfl,
    List.forall_mem_append]
  simpa using fun _ => completed

/-- An issue of the port check that is about a missing node is in the result, and makes it
invalid. -/
theorem structural_mem_issues_iff {issue : Issue} (kind : issue.kind = .structuralEdge)
    (blocking : issue.isBlocking = true) :
    (issue ∈ (validate catalog ⟨true, offset⟩ nodes edges).issues ∧
        (validate catalog ⟨true, offset⟩ nodes edges).valid = false) ↔
      issue ∈ (run catalog ⟨true, offset⟩ nodes edges).ports := by
  constructor
  · exact fun reported => mem_ports_of_structural catalog ⟨true, offset⟩ nodes edges reported.1 kind
  · intro reported
    refine ⟨mem_issues_iff.mpr (.inr (.inr (.inr (.inl reported)))), ?_⟩
    rw [← Bool.not_eq_true, valid_run_iff]
    exact fun valid => valid.2.1 (List.any_eq_true.mpr ⟨issue, reported, blocking⟩)

end

end Stages

/-- **An edge to a node that does not exist stays fatal** under repair, unless a source is
inserted under the very id that it names: the missing end is reported, and the workflow is
invalid for it, just if no source took that id. -/
theorem dangling_of_repair (catalog : NodeCatalog) (nodes : List Node) (edges : List Edge)
    (offset : Float) {e : Edge} (mem : e ∈ edges) :
    let stages := Stages.run catalog ⟨true, offset⟩ nodes edges
    let repaired := validate catalog ⟨true, offset⟩ nodes edges
    ((∀ node ∈ nodes, node.id ≠ e.source) →
      ((Port.Ends.unknownSource e ∈ repaired.issues ∧ repaired.valid = false) ↔
        ∀ source ∈ stages.sources, source.id ≠ e.source)) ∧
    ((∀ node ∈ nodes, node.id ≠ e.target) →
      ((Port.Ends.unknownTarget e ∈ repaired.issues ∧ repaired.valid = false) ↔
        ∀ source ∈ stages.sources, source.id ≠ e.target)) := by
  intro stages repaired
  obtain ⟨feeds, detours, repairs⟩ := Stages.exists_repairs catalog nodes edges offset
  have kept : e ∈ stages.fed.draft.edges.toList := by
    rw [repairs.feeding.edges]
    exact List.mem_append_left _ mem
  constructor
  · intro off
    rw [Stages.structural_mem_issues_iff catalog nodes edges offset rfl rfl,
      ← Stages.node?_fed_eq_none_iff catalog nodes edges offset off]
    exact Port.Ends.unknownSource_mem_check_iff kept
  · intro off
    rw [Stages.structural_mem_issues_iff catalog nodes edges offset rfl rfl,
      ← Stages.node?_fed_eq_none_iff catalog nodes edges offset off]
    exact Port.Ends.unknownTarget_mem_check_iff kept

/-- The source gets the first free number, and the edge names the second. -/
theorem dangling_of_repair_apart :
    let catalog : Catalog := ⟨[⟨"sink", ⟨[⟨"text", "text", true⟩], []⟩, []⟩,
      ⟨"viewer", ⟨[⟨"text", "text", false⟩], []⟩, []⟩,
      ⟨"file-source", ⟨[], [⟨"file", "text", false⟩]⟩, []⟩], by decide⟩
    let nodes : List Node := [⟨"n", "sink", .origin, []⟩, ⟨"m", "viewer", .origin, []⟩]
    let e : Edge := ⟨"e", "auto-file-source-2", "m", none, none⟩
    let repaired := validate catalog ⟨true, 250⟩ nodes [e]
    e ∈ [e] ∧ (∀ node ∈ nodes, node.id ≠ e.source) ∧
      repaired.insertedNodes.map (·.id) = ["auto-file-source-1"] ∧
      Port.Ends.unknownSource e ∈ repaired.issues ∧ repaired.valid = false := by
  intro catalog nodes e repaired
  have off : ∀ node ∈ nodes, node.id ≠ e.source := by decide
  have apart : ∀ source ∈ (Stages.run catalog ⟨true, 250⟩ nodes [e]).sources,
      source.id ≠ e.source := by decide +kernel
  have fatal := (dangling_of_repair catalog nodes [e] 250 (List.mem_singleton_self e)).1 off
  exact ⟨List.mem_singleton_self e, off, by decide +kernel, fatal.mpr apart⟩

/-- The edge names the first free number, and the source that is inserted for another node
becomes its missing end: nothing is reported of the edge, and the workflow is valid. -/
theorem dangling_of_repair_taken :
    let catalog : Catalog := ⟨[⟨"sink", ⟨[⟨"text", "text", true⟩], []⟩, []⟩,
      ⟨"viewer", ⟨[⟨"text", "text", false⟩], []⟩, []⟩,
      ⟨"file-source", ⟨[], [⟨"file", "text", false⟩]⟩, []⟩], by decide⟩
    let nodes : List Node := [⟨"n", "sink", .origin, []⟩, ⟨"m", "viewer", .origin, []⟩]
    let e : Edge := ⟨"e", "auto-file-source-1", "m", none, none⟩
    let repaired := validate catalog ⟨true, 250⟩ nodes [e]
    (∀ node ∈ nodes, node.id ≠ e.source) ∧
      (∀ issue ∈ repaired.issues, issue.kind ≠ .structuralEdge) ∧ repaired.valid = true := by
  decide +kernel

end Dataflow
