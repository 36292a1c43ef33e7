import Dataflow.Proofs.Port.Connection
import Mathlib.Data.List.Forall2

/-! What takes the place of edges that need a converter.

An edge is led through a converter just if issues call for it and its ports connect through
one (`connectionOf?`); where these are the issues of the ports themselves, every such edge was
reported (`ofEdge_eq_through_iff`). So a conversion replaces these edges, each in its place, and
leaves the others (`Detoured`). What led to a node leads to it still, and by the same handle
(`Detoured.into`), and every detour goes back to one report that names its type
(`Detoured.reports`). -/
namespace Dataflow.Repair.Converter

/-! ### Plans -/

/-- Whether some issue calls for a converter on the edges of an id. -/
def calledFor (issues : List Issue) (id : String) : Bool :=
  issues.any fun i => i.kind == .convertibleTypeMismatch && i.edgeId == some id

/-- How the ports of an edge connect, if issues call for a converter on it. -/
def connectionOf? (catalog : NodeCatalog) (issues : List Issue) (nodes : List Node) (e : Edge) :
    Option Compatibility :=
  if calledFor issues e.id then Port.connection? catalog nodes e else .none

theorem connection?_of_connectionOf? {catalog : NodeCatalog} {issues : List Issue}
    {nodes : List Node} {e : Edge} {how : Compatibility}
    (connected : connectionOf? catalog issues nodes e = some how) :
    Port.connection? catalog nodes e = some how := by
  unfold connectionOf? at connected
  split at connected
  · exact connected
  · cases connected

theorem mem_reported_iff_calledFor {issues : List Issue} {id : String} :
    id ∈ reported issues ↔ calledFor issues id = true := by
  simp [mem_reported_iff, calledFor]

section
variable {catalog : NodeCatalog} {issues : List Issue} {d : Draft} (indexed : d.Indexed) {e : Edge}
include indexed

/-- **What is planned for an edge**: it is led through a converter if that is called for, and its
ports need one; the converter stands halfway between its nodes. -/
theorem ofEdge_eq_through_iff_connectionOf? {type : String} {position : Position} :
    Plan.ofEdge catalog d (reported issues) e = .through type position ↔
      connectionOf? catalog issues d.nodes.toList e = some (.convertible type) ∧
        ∃ source target, d.node? e.source = some source ∧ d.node? e.target = some target ∧
          position = source.position.midpoint target.position := by
  have called : (reported issues).contains e.id = calledFor issues e.id := by
    rw [Bool.eq_iff_iff, ← Std.TreeSet.mem_iff_contains, mem_reported_iff_calledFor]
  rw [Plan.ofEdge, connectionOf?, called]
  cases calledFor issues e.id with
  | false => simp
  | true =>
    rw [if_pos rfl, if_pos rfl, ← Port.converter?_ofEdge_eq_some_iff indexed]
    cases (Port.Ends.ofEdge catalog d e).converter? with
    | none => simp
    | some converter =>
      cases d.node? e.source with
      | none => simp
      | some source =>
        cases d.node? e.target with
        | none => simp
        | some target => simp [eq_comm]

/-- An edge has a plan just if a converter is called for and its ports need one. -/
theorem exists_ofEdge_eq_through_iff {type : String} :
    (∃ position, Plan.ofEdge catalog d (reported issues) e = .through type position) ↔
      connectionOf? catalog issues d.nodes.toList e = some (.convertible type) := by
  simp only [ofEdge_eq_through_iff_connectionOf? indexed]
  refine ⟨fun ⟨_, connected, _⟩ => connected, fun connected => ?_⟩
  obtain ⟨output, input, at_source, at_target, -⟩ :=
    Port.connection?_eq_some_iff.mp (connection?_of_connectionOf? connected)
  obtain ⟨source, source_found, -⟩ := Option.bind_eq_some_iff.mp at_source
  obtain ⟨target, target_found, -⟩ := Option.bind_eq_some_iff.mp at_target
  rw [← indexed.node?_eq_find?] at source_found target_found
  exact ⟨_, connected, source, target, source_found, target_found, rfl⟩

/-- The check of all ports calls for a converter wherever one is needed. -/
theorem connectionOf?_check (mem : e ∈ d.edges.toList) {type : String} :
    connectionOf? catalog (Port.Ends.check catalog d) d.nodes.toList e =
        some (.convertible type) ↔
      Port.connection? catalog d.nodes.toList e = some (.convertible type) := by
  refine ⟨connection?_of_connectionOf?, fun connected => ?_⟩
  have converter := (Port.converter?_ofEdge_eq_some_iff indexed).mpr connected
  have called : calledFor (Port.Ends.check catalog d) e.id = true := by
    obtain ⟨issue, issue_mem, kind⟩ := Port.reported_issues_iff.mpr ⟨type, converter⟩
    rw [← mem_reported_iff_calledFor, mem_reported_iff]
    exact ⟨issue, List.mem_flatMap.mpr ⟨e, mem, issue_mem⟩, kind,
      Port.Ends.edgeId_of_mem_issues issue_mem⟩
  rw [connectionOf?, if_pos called, connected]

/-- Once all ports were checked, an edge is led through a converter just if its ports connect
through one. No other edge is, though it may share the id of an edge that is. -/
theorem ofEdge_eq_through_iff (mem : e ∈ d.edges.toList) {type : String} :
    Port.connection? catalog d.nodes.toList e = some (.convertible type) ↔
      ∃ position, Plan.ofEdge catalog d (reported (Port.Ends.check catalog d)) e =
        .through type position :=
  (connectionOf?_check indexed mem).symm.trans (exists_ofEdge_eq_through_iff indexed).symm

end

/-! ### Detours in place of edges -/

/-- Every edge that connects through a converter is replaced, in its place, by a detour through
a node of that type; the other edges are left. -/
inductive Detoured (connection : Edge → Option Compatibility) :
    List Edge → List Edge → List Detour → Prop where
  | nil : Detoured connection [] [] []
  | keep {e before after detours} (direct : ∀ type, connection e ≠ some (.convertible type))
      (rest : Detoured connection before after detours) :
      Detoured connection (e :: before) (e :: after) detours
  | through {before after detours} (d : Detour)
      (needed : connection d.edge = some (.convertible d.type))
      (rest : Detoured connection before after detours) :
      Detoured connection (d.edge :: before) (d.into :: d.out :: after) (d :: detours)

/-- Plans that go by how edges connect. -/
theorem Carried.detoured {connection : Edge → Option Compatibility} {plans : List (Edge × Plan)}
    {edges : List Edge} {detours : List Detour} (h : Carried plans edges detours)
    (planned : ∀ p ∈ plans, ∀ type, connection p.1 = some (.convertible type) ↔
      ∃ position, p.2 = .through type position) :
    Detoured connection (plans.map (·.1)) edges detours := by
  induction h with
  | nil => exact .nil
  | keep kept rest ih =>
    rw [List.forall_mem_cons] at planned
    refine .keep (fun type needed => ?_) (ih planned.2)
    obtain ⟨position, through⟩ := (planned.1 type).mp needed
    exact kept type position through
  | through d rest ih =>
    rw [List.forall_mem_cons] at planned
    exact .through d ((planned.1 d.type).mpr ⟨d.position, rfl⟩) (ih planned.2)

/-- An edge leads to its target in place of another one: it is that edge, or comes out of the
detour that replaced it. -/
def Arrives (detours : List Detour) (e e' : Edge) : Prop :=
  e' = e ∨ ∃ d ∈ detours, d.edge = e ∧ d.out = e'

theorem Arrives.mono {detours : List Detour} {e e' : Edge} (h : Arrives detours e e')
    (d : Detour) : Arrives (d :: detours) e e' := by
  refine h.imp_right fun detoured => ?_
  obtain ⟨d', mem, rfl, rfl⟩ := detoured
  exact ⟨d', List.mem_cons_of_mem _ mem, rfl, rfl⟩

theorem Arrives.targetHandle_eq {detours : List Detour} {e e' : Edge} (h : Arrives detours e e') :
    e'.targetHandle = e.targetHandle := by
  rcases h with rfl | ⟨d, -, rfl, rfl⟩
  · rfl
  · rfl

/-- The issue reports the edge of the detour, and names the converter between its port types. -/
def Detour.ReportedBy (catalog : NodeCatalog) (nodes : List Node) (issue : Issue) (d : Detour) :
    Prop :=
  ∃ output input, Port.output? catalog nodes d.edge = some output ∧
    Port.input? catalog nodes d.edge = some input ∧
    Compatibility.resolve output.type input.type = .convertible d.type ∧
    issue = Port.Ends.convertible d.edge output.type input.type d.type

namespace Detoured

section
variable {connection : Edge → Option Compatibility} {before after : List Edge}
  {detours : List Detour} (h : Detoured connection before after detours)
include h

theorem length_eq : after.length = before.length + detours.length := by
  induction h with
  | nil => rfl
  | keep direct rest ih =>
    simp only [List.length_cons] at ih ⊢
    omega
  | through d needed rest ih =>
    simp only [List.length_cons] at ih ⊢
    omega

/-- An edge that is left is one from before that needed no converter, or belongs to a detour. -/
theorem edge_mem {e : Edge} (mem : e ∈ after) :
    (e ∈ before ∧ ∀ type, connection e ≠ some (.convertible type)) ∨
      ∃ d ∈ detours, e = d.into ∨ e = d.out := by
  induction h with
  | nil => simp at mem
  | @keep e before after detours direct rest ih =>
    rcases List.mem_cons.mp mem with rfl | mem
    · exact .inl ⟨List.mem_cons_self .., direct⟩
    · exact (ih mem).imp_left fun kept => ⟨List.mem_cons_of_mem _ kept.1, kept.2⟩
  | @through before after detours d needed rest ih =>
    rw [List.mem_cons, List.mem_cons, ← or_assoc] at mem
    rcases mem with of_detour | mem
    · exact .inr ⟨d, List.mem_cons_self .., of_detour⟩
    · rcases ih mem with kept | ⟨d', d'_mem, of_detour⟩
      · exact .inl ⟨List.mem_cons_of_mem _ kept.1, kept.2⟩
      · exact .inr ⟨d', List.mem_cons_of_mem _ d'_mem, of_detour⟩

/-- An edge from before is left, or needed a converter and is replaced. -/
theorem left_or_replaced {e : Edge} (mem : e ∈ before) : e ∈ after ∨
    ∃ d ∈ detours, d.edge = e ∧ connection e = some (.convertible d.type) := by
  induction h with
  | nil => simp at mem
  | keep direct rest ih =>
    rcases List.mem_cons.mp mem with rfl | mem
    · exact .inl (List.mem_cons_self ..)
    · exact (ih mem).imp_left (List.mem_cons_of_mem _)
  | through d needed rest ih =>
    rcases List.mem_cons.mp mem with rfl | mem
    · exact .inr ⟨d, List.mem_cons_self .., rfl, needed⟩
    · refine (ih mem).imp (fun left => ?_) fun replaced => ?_
      · exact List.mem_cons_of_mem _ (List.mem_cons_of_mem _ left)
      · obtain ⟨d', d'_mem, eq⟩ := replaced
        exact ⟨d', List.mem_cons_of_mem _ d'_mem, eq⟩

/-- The edges to a node that is no converter are those from before, in their order. -/
theorem into {id : String} (off : id ∉ detours.map (·.nodeId)) :
    List.Forall₂ (Arrives detours) (before.filter fun e => e.target = id)
      (after.filter fun e => e.target = id) := by
  induction h with
  | nil => exact .nil
  | @keep e before after detours direct rest ih =>
    by_cases target : e.target = id
    · rw [List.filter_cons_of_pos (by simpa using target),
        List.filter_cons_of_pos (by simpa using target)]
      exact .cons (.inl rfl) (ih off)
    · rw [List.filter_cons_of_neg (by simpa using target),
        List.filter_cons_of_neg (by simpa using target)]
      exact ih off
  | @through before after detours d needed rest ih =>
    rw [List.map_cons, List.mem_cons, not_or] at off
    have others := (ih off.2).imp fun _ _ arrives => arrives.mono d
    have into : d.into.target ≠ id := fun eq => off.1 eq.symm
    rw [List.filter_cons_of_neg (a := d.into) (by simpa using into)]
    by_cases target : d.edge.target = id
    · have out : d.out.target = id := target
      rw [List.filter_cons_of_pos (by simpa using target),
        List.filter_cons_of_pos (by simpa using out)]
      exact .cons (.inr ⟨d, List.mem_cons_self .., rfl, rfl⟩) others
    · have out : d.out.target ≠ id := target
      rw [List.filter_cons_of_neg (by simpa using target),
        List.filter_cons_of_neg (by simpa using out)]
      exact others

/-- They lead to it by the handles from before. -/
theorem handles_eq {id : String} (off : id ∉ detours.map (·.nodeId)) :
    (after.filter fun e => e.target = id).map (·.targetHandle) =
      (before.filter fun e => e.target = id).map (·.targetHandle) := by
  have same := (h.into off).imp fun _ _ arrives => arrives.targetHandle_eq.symm
  rw [eq_comm, ← List.forall₂_eq_eq_eq, List.forall₂_map_left_iff, List.forall₂_map_right_iff]
  exact same

/-- Both edges of a detour are there. -/
theorem edges_mem {d : Detour} (mem : d ∈ detours) : d.into ∈ after ∧ d.out ∈ after := by
  induction h with
  | nil => simp at mem
  | keep direct rest ih =>
    exact (ih mem).imp (List.mem_cons_of_mem _) (List.mem_cons_of_mem _)
  | through d' needed rest ih =>
    rcases List.mem_cons.mp mem with rfl | mem
    · simp
    · have later := ih mem
      simp [later]

end

/-- **Every detour goes back to one report**, in their order. -/
theorem reports {catalog : NodeCatalog} {d : Draft} (indexed : d.Indexed) {before after : List Edge}
    {detours : List Detour}
    (h : Detoured (Port.connection? catalog d.nodes.toList) before after detours) :
    List.Forall₂ (Detour.ReportedBy catalog d.nodes.toList)
      ((before.flatMap fun e => Port.Ends.issues e (Port.Ends.ofEdge catalog d e)).filter
        fun i => i.kind == .convertibleTypeMismatch) detours := by
  induction h with
  | nil => exact .nil
  | @keep e before after detours direct rest ih =>
    have none : (Port.Ends.issues e (Port.Ends.ofEdge catalog d e)).filter
        (fun i => i.kind == .convertibleTypeMismatch) = [] := by
      rw [List.filter_eq_nil_iff]
      intro issue mem kind
      obtain ⟨type, found⟩ := Port.reported_issues_iff.mp ⟨issue, mem, beq_iff_eq.mp kind⟩
      exact direct type ((Port.converter?_ofEdge_eq_some_iff indexed).mp found)
    rw [List.flatMap_cons, List.filter_append, none]
    exact ih
  | @through before after detours detour needed rest ih =>
    obtain ⟨output, input, at_source, at_target, how⟩ := Port.connection?_eq_some_iff.mp needed
    have one : Port.Ends.issues detour.edge (Port.Ends.ofEdge catalog d detour.edge) =
        [Port.Ends.convertible detour.edge output.type input.type detour.type] := by
      rw [Port.ofEdge_eq_resolved indexed at_source at_target, Port.Ends.issues, how]
    rw [List.flatMap_cons, one]
    exact .cons ⟨output, input, at_source, at_target, how, rfl⟩ ih

end Detoured

end Dataflow.Repair.Converter
