import Dataflow.Proofs.Reports

/-! How the two ports of an edge connect.

`connection?` finds the ports of an edge by the nodes, and says how their types connect. It is
what the port check goes by (`blocked_check_iff`, `reported_convertible_iff`), and nodes of
other ids make no difference to it (`connection?_append`). -/
namespace Dataflow.Port

section
variable {catalog : NodeCatalog} {nodes added : List Node} {e : Edge}

/-- How the ports of an edge connect, if both of them are found. -/
def connection? (catalog : NodeCatalog) (nodes : List Node) (e : Edge) : Option Compatibility :=
  match output? catalog nodes e, input? catalog nodes e with
  | some output, some input => some (Compatibility.resolve output.type input.type)
  | _, _ => none

theorem connection?_eq_some_iff {how : Compatibility} : connection? catalog nodes e = some how ↔
    ∃ output input, output? catalog nodes e = some output ∧ input? catalog nodes e = some input ∧
      Compatibility.resolve output.type input.type = how := by
  unfold connection?
  cases output? catalog nodes e with
  | none => simp
  | some output =>
    cases input? catalog nodes e with
    | none => simp
    | some input => simp

theorem find?_append_of_not_mem {id : String} (off : id ∉ added.map (·.id)) :
    ((nodes ++ added).find? fun n => n.id == id) = nodes.find? fun n => n.id == id := by
  have none : (added.find? fun n => n.id == id) = none := by
    rw [List.find?_eq_none]
    intro n mem same
    exact off (List.mem_map.mpr ⟨n, mem, by simpa using same⟩)
  rw [List.find?_append, none, Option.or_none]

/-- Further nodes make no difference to an edge that does not name them. -/
theorem connection?_append (off_source : e.source ∉ added.map (·.id))
    (off_target : e.target ∉ added.map (·.id)) :
    connection? catalog (nodes ++ added) e = connection? catalog nodes e := by
  rw [connection?, output?, input?, find?_append_of_not_mem off_source,
    find?_append_of_not_mem off_target]
  rfl

theorem connection?_completed : connection? catalog (Completion.ofNodes catalog nodes).nodes e =
    connection? catalog nodes e := by
  rw [connection?, output?_completed, input?_completed]
  rfl

/-- The ends of an edge are a matter of the types of the nodes that it names. -/
theorem Ends.ofEdge_congr {draft draft' : Draft}
    (source : (draft'.node? e.source).map (·.type) = (draft.node? e.source).map (·.type))
    (target : (draft'.node? e.target).map (·.type) = (draft.node? e.target).map (·.type)) :
    Ends.ofEdge catalog draft' e = Ends.ofEdge catalog draft e := by
  have types {a b : Option Node} (same : a.map (·.type) = b.map (·.type)) :
      (a = none ∧ b = none) ∨ ∃ n m, a = some n ∧ b = some m ∧ n.type = m.type := by
    cases a with
    | none => exact .inl ⟨rfl, Option.map_eq_none_iff.mp same.symm⟩
    | some n =>
      obtain ⟨m, found, type⟩ := Option.map_eq_some_iff.mp same.symm
      exact .inr ⟨n, m, rfl, found, type.symm⟩
  unfold Ends.ofEdge
  rcases types source with ⟨none', none⟩ | ⟨n, m, found', found, same_source⟩
  · rcases types target with ⟨loose', loose⟩ | ⟨k, l, at_target', at_target, -⟩
    · rw [none', none, loose', loose]
    · simp only [none', none, at_target', at_target, Option.isNone_some]
  · rcases types target with ⟨loose', loose⟩ | ⟨k, l, at_target', at_target, same_target⟩
    · simp only [found', found, loose', loose, Option.isNone_some]
    · simp only [found', found, at_target', at_target, same_source, same_target]

/-- Both ends of an edge are nodes. -/
def Attached (nodes : List Node) (e : Edge) : Prop :=
  (∃ n ∈ nodes, n.id = e.source) ∧ ∃ n ∈ nodes, n.id = e.target

theorem Attached.append (h : Attached nodes e) : Attached (nodes ++ added) e := by
  obtain ⟨⟨source, source_mem, source_id⟩, target, target_mem, target_id⟩ := h
  exact ⟨⟨source, List.mem_append_left _ source_mem, source_id⟩,
    target, List.mem_append_left _ target_mem, target_id⟩

end

/-! ### What the port check goes by -/

section
variable {catalog : NodeCatalog} {draft : Draft} (indexed : draft.Indexed)
include indexed

theorem blocked_check_iff : Blocked (Ends.check catalog draft) ↔
    ∃ e ∈ draft.edges.toList, ¬ Attached draft.nodes.toList e ∨
      connection? catalog draft.nodes.toList e = some .incompatible := by
  rw [Ends.check, blocked_flatMap]
  simp only [blocked_ofEdge indexed, connection?_eq_some_iff, Attached]

/-- An edge needs a converter if its ports connect through one. -/
theorem converter?_ofEdge_eq_some_iff {e : Edge} {type : String} :
    (Ends.ofEdge catalog draft e).converter? = some type ↔
      connection? catalog draft.nodes.toList e = some (.convertible type) := by
  rw [connection?_eq_some_iff]
  unfold Ends.ofEdge output? input?
  rw [indexed.node?_eq_find?, indexed.node?_eq_find?]
  cases draft.nodes.toList.find? fun n => n.id == e.source with
  | none => simp [Ends.converter?]
  | some source =>
    cases draft.nodes.toList.find? fun n => n.id == e.target with
    | none => simp [Ends.converter?]
    | some target =>
      simp only [Option.bind_some]
      cases (catalog.definition source.type).bind (·.outputPort e.sourceHandle) with
      | none => simp [Ends.converter?]
      | some output =>
        cases (catalog.definition target.type).bind (·.inputPort e.targetHandle) with
        | none => simp [Ends.converter?]
        | some input => simp [Ends.converter?, Compatibility.converter?_eq_some_iff]

theorem ofEdge_eq_resolved {e : Edge} {output input : PortDefinition}
    (at_source : output? catalog draft.nodes.toList e = some output)
    (at_target : input? catalog draft.nodes.toList e = some input) :
    Ends.ofEdge catalog draft e = .resolved output input := by
  obtain ⟨source, source_found, output_found⟩ := Option.bind_eq_some_iff.mp at_source
  obtain ⟨target, target_found, input_found⟩ := Option.bind_eq_some_iff.mp at_target
  rw [← indexed.node?_eq_find?] at source_found target_found
  unfold Ends.ofEdge
  simp only [source_found, target_found, output_found, input_found]

omit indexed in
theorem reported_issues_iff {e : Edge} {ends : Ends} :
    Reported .convertibleTypeMismatch (Ends.issues e ends) ↔
      ∃ type, ends.converter? = some type := by
  simp only [Reported, Ends.mem_issues_iff]
  cases ends with
  | dangling sourceMissing targetMissing =>
    simp [or_and_right, exists_or, Ends.unknownSource, Ends.unknownTarget, Ends.converter?]
  | unresolved output input => simp [Ends.notFound, Ends.converter?]
  | resolved output input =>
    simp only [Ends.converter?, Compatibility.converter?_eq_some_iff]
    constructor
    · intro reported
      obtain ⟨issue, ⟨converter, found, rfl⟩ | ⟨-, rfl⟩, kind⟩ := reported
      · exact ⟨converter, found⟩
      · cases kind
    · intro found
      obtain ⟨converter, found⟩ := found
      exact ⟨_, .inl ⟨converter, found, rfl⟩, rfl⟩

theorem reported_convertible_iff : Reported .convertibleTypeMismatch (Ends.check catalog draft) ↔
    ∃ e ∈ draft.edges.toList, ∃ type,
      connection? catalog draft.nodes.toList e = some (.convertible type) := by
  rw [Ends.check, reported_flatMap]
  simp only [reported_issues_iff, converter?_ofEdge_eq_some_iff indexed]

end

end Dataflow.Port
