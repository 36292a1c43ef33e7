import Dataflow.Proofs.Config.Filling
import Dataflow.Proofs.Port.Connection

/-! The log of a run, beside its result.

Warnings come from completion alone, one for each node of unknown type. A repair logs each node that
it inserts and reports it once (`Repair.Logged`), whether or not it was asked for. What it says
besides is of edges that need no converter although their id was reported; then another edge has
the id (`Converter.two_le_count_of_notNeeded`). So the log of a run can be told from its result
(`events_of_validate`). -/
namespace Dataflow

/-! ### Events -/

namespace Event

/-- The stage that was checked, with the number of issues that it reported. -/
def check? : Event → Option (Stage × Nat)
  | checked stage count => some (stage, count)
  | _ => none

/-- The event says of the issue's node that its type is unknown. -/
def Warns (e : Event) (i : Issue) : Prop := ∃ id type, e = unknownType id type ∧ i.nodeId = some id

/-- The event says that the node was inserted. -/
def Inserts (e : Event) (node : Node) : Prop :=
  (∃ target, e = insertedSource node.id node.type target) ∨
    ∃ edgeId, e = insertedConverter node.id node.type edgeId

theorem Inserts.level {e : Event} {node : Node} (h : e.Inserts node) : e.level = "INFO" := by
  rcases h with ⟨target, rfl⟩ | ⟨edgeId, rfl⟩
  · rfl
  · rfl

theorem Inserts.check? {e : Event} {node : Node} (h : e.Inserts node) : e.check? = none := by
  rcases h with ⟨target, rfl⟩ | ⟨edgeId, rfl⟩
  · rfl
  · rfl

end Event

/-- The events of a level. -/
def atLevel (level : String) (log : List Event) : List Event := log.filter fun e => e.level = level

section
variable {level : String} {log : List Event}

theorem atLevel_append (a b : List Event) :
    atLevel level (a ++ b) = atLevel level a ++ atLevel level b := List.filter_append ..

theorem atLevel_eq_self (all : ∀ e ∈ log, e.level = level) : atLevel level log = log :=
  List.filter_eq_self.mpr fun e mem => decide_eq_true (all e mem)

theorem atLevel_eq_nil (none : ∀ e ∈ log, e.level ≠ level) : atLevel level log = [] :=
  List.filter_eq_nil_iff.mpr fun e mem same => none e mem (of_decide_eq_true same)

end

/-- Each of the insertions is logged at level `INFO`. -/
theorem forall₂_inserts {α : Type} {event : α → Event} {node : α → Node}
    (inserts : ∀ a, (event a).Inserts (node a)) (items : List α) :
    List.Forall₂ Event.Inserts (atLevel "INFO" (items.map event)) (items.map node) := by
  have all : ∀ e ∈ items.map event, e.level = "INFO" := by
    rw [List.forall_mem_map]
    exact fun a _ => (inserts a).level
  rw [atLevel_eq_self all, List.forall₂_map_left_iff, List.forall₂_map_right_iff,
    List.forall₂_same]
  exact fun a _ => inserts a

/-! ### Completion -/

namespace Completion

variable (catalog : NodeCatalog) (nodes : List Node)

/-- Completion logs the nodes of unknown type. -/
theorem events_ofNodes : (ofNodes catalog nodes).events =
    (nodes.filter fun n => (catalog.definition n.type).isNone).map fun n =>
      .unknownType n.id n.type := by
  induction nodes with
  | nil => rfl
  | cons node nodes ih =>
    have rest : nodes.flatMap (nodeEvents catalog) = _ := ih
    show (node :: nodes).flatMap (nodeEvents catalog) = _
    rw [List.flatMap_cons, rest, nodeEvents, List.filter_cons]
    cases catalog.definition node.type with
    | none => rfl
    | some d => rfl

/-- It reports the same nodes, in the same order. -/
theorem forall₂_warns : List.Forall₂ Event.Warns (ofNodes catalog nodes).events
    ((ofNodes catalog nodes).issues.filter fun i => i.kind == .unknownNodeType) := by
  rw [events_ofNodes, filter_unknown_ofNodes, List.forall₂_map_left_iff,
    List.forall₂_map_right_iff, List.forall₂_same]
  exact fun node _ => ⟨node.id, node.type, rfl, rfl⟩

end Completion

/-! ### Repairs -/

namespace Repair

/-- A repair of a workflow with the given edges logs the nodes that it adds, and each of them has
its issue. Of edges that need no converter it logs those that share their id. -/
structure Logged (given : List Edge) (r : Repair) (added : List Node) : Prop where
  insertions : List.Forall₂ Event.Inserts (atLevel "INFO" r.events) added
  issues : r.issues.length = added.length
  others : ∀ e ∈ r.events, (∃ node, e.Inserts node) ∨
    ∃ id, e = .converterNotNeeded id ∧ 2 ≤ (given.map (·.id)).count id

theorem logged_none (given : List Edge) (d : Draft) : Logged given (.none d) [] where
  insertions := .nil
  issues := rfl
  others := by simp

namespace Logged

variable {given : List Edge} {r : Repair} {added : List Node} (h : Logged given r added)
include h

theorem warnings_eq_nil : atLevel "WARN" r.events = [] := by
  refine atLevel_eq_nil fun e mem => ?_
  rcases h.others e mem with ⟨node, inserts⟩ | ⟨id, rfl, -⟩
  · rw [inserts.level]
    decide
  · simp [Event.level]

theorem checks_eq_nil : r.events.filterMap Event.check? = [] := by
  rw [List.filterMap_eq_nil_iff]
  intro e mem
  rcases h.others e mem with ⟨node, inserts⟩ | ⟨id, rfl, -⟩
  · exact inserts.check?
  · rfl

theorem two_le_count {id : String} (mem : .converterNotNeeded id ∈ r.events) :
    2 ≤ (given.map (·.id)).count id := by
  rcases h.others _ mem with ⟨node, ⟨_, other⟩ | ⟨_, other⟩⟩ | ⟨_, same, shared⟩
  · cases other
  · cases other
  · cases same
    exact shared

end Logged

theorem Source.Feeding.logged {offset : Float} {ids : List String} {d : Draft} {r : Repair}
    {feeds : List Source.Feed} (h : Source.Feeding offset ids d r feeds) (given : List Edge) :
    Logged given r (feeds.map (·.source offset)) := by
  have inserts (feed : Source.Feed) : feed.event.Inserts (feed.source offset) := .inl ⟨_, rfl⟩
  exact {
    insertions := by
      rw [h.events]
      exact forall₂_inserts inserts feeds
    issues := by rw [h.issues, List.length_map, List.length_map]
    others := by
      rw [h.events, List.forall_mem_map]
      exact fun feed _ => .inl ⟨_, inserts feed⟩ }

namespace Converter

section
variable {catalog : NodeCatalog} {issues : List Issue} {d : Draft}

/-- A note is about an edge of the draft whose id was reported, and which needs no converter. -/
theorem mem_notes_iff {event : Event} :
    event ∈ ((plans catalog issues d).flatMap fun p => p.2.events p.1) ↔
      ∃ e ∈ d.edges.toList, e.id ∈ reported issues ∧
        (Port.Ends.ofEdge catalog d e).converter? = .none ∧ event = .converterNotNeeded e.id := by
  have one (e : Edge) : event ∈ (Plan.ofEdge catalog d (reported issues) e).events e ↔
      e.id ∈ reported issues ∧ (Port.Ends.ofEdge catalog d e).converter? = .none ∧
        event = .converterNotNeeded e.id := by
    rw [Plan.ofEdge, Std.TreeSet.mem_iff_contains]
    cases (reported issues).contains e.id with
    | false => simp [Plan.events]
    | true =>
      cases (Port.Ends.ofEdge catalog d e).converter? with
      | none => simp [Plan.events]
      | some type =>
        cases d.node? e.source with
        | none => simp [Plan.events]
        | some source =>
          cases d.node? e.target with
          | none => simp [Plan.events]
          | some target => simp [Plan.events]
  simp only [plans, List.mem_flatMap, List.mem_map, exists_exists_and_eq_and, one]

/-- Where an id was reported, some edge of that id needs a converter. -/
theorem exists_converter?_of_mem_reported {id : String}
    (called : id ∈ reported (Port.Ends.check catalog d)) :
    ∃ e ∈ d.edges.toList, e.id = id ∧ ∃ type,
      (Port.Ends.ofEdge catalog d e).converter? = some type := by
  obtain ⟨issue, mem, kind, names⟩ := mem_reported_iff.mp called
  obtain ⟨e, e_mem, found⟩ := List.mem_flatMap.mp mem
  have same := (Port.Ends.edgeId_of_mem_issues found).symm.trans names
  exact ⟨e, e_mem, Option.some.inj same, Port.reported_issues_iff.mp ⟨issue, found, kind⟩⟩

/-- Two different edges of one id count twice. -/
theorem two_le_count_of_ne {edges : List Edge} {e other : Edge} (mem : e ∈ edges)
    (other_mem : other ∈ edges) (ne : other ≠ e) (same : other.id = e.id) :
    2 ≤ (edges.map (·.id)).count e.id := by
  obtain ⟨before, after, rfl⟩ := List.append_of_mem mem
  have elsewhere : e.id ∈ (before ++ after).map (·.id) := by
    rw [← same]
    refine List.mem_map_of_mem ?_
    simpa [ne] using other_mem
  have counted := List.one_le_count_iff.mpr elsewhere
  simp only [List.map_append, List.count_append, List.map_cons, List.count_cons_self] at counted ⊢
  omega

/-- **An edge that needs no converter any more** shares its id with one that does. -/
theorem two_le_count_of_notNeeded {id : String} (noted : .converterNotNeeded id ∈
      (plans catalog (Port.Ends.check catalog d) d).flatMap fun p => p.2.events p.1) :
    2 ≤ (d.edges.toList.map (·.id)).count id := by
  obtain ⟨e, mem, called, notNeeded, same⟩ := mem_notes_iff.mp noted
  obtain rfl : id = e.id := by simpa using same
  obtain ⟨other, other_mem, other_id, type, needed⟩ := exists_converter?_of_mem_reported called
  have ne : other ≠ e := by
    rintro rfl
    rw [notNeeded] at needed
    cases needed
  exact two_le_count_of_ne mem other_mem ne other_id

end

theorem Converting.logged {catalog : NodeCatalog} {d : Draft} {edges : List Edge} {r : Repair}
    {detours : List Detour} (h : Converting
      ((plans catalog (Port.Ends.check catalog d) d).flatMap fun p => p.2.events p.1)
      (plans catalog (Port.Ends.check catalog d) d) d edges r detours) :
    Logged d.edges.toList r (detours.map (·.node)) := by
  have inserts (detour : Detour) : detour.event.Inserts detour.node := .inr ⟨_, rfl⟩
  have notes : ∀ e ∈ (plans catalog (Port.Ends.check catalog d) d).flatMap fun p => p.2.events p.1,
      ∃ id, e = .converterNotNeeded id ∧ 2 ≤ (d.edges.toList.map (·.id)).count id := by
    intro e mem
    obtain ⟨edge, -, -, -, rfl⟩ := mem_notes_iff.mp mem
    exact ⟨edge.id, rfl, two_le_count_of_notNeeded mem⟩
  have quiet : ∀ e ∈ (plans catalog (Port.Ends.check catalog d) d).flatMap fun p => p.2.events p.1,
      e.level ≠ "INFO" := by
    intro e mem
    obtain ⟨id, rfl, -⟩ := notes e mem
    simp [Event.level]
  exact {
    insertions := by
      rw [h.events, atLevel_append, atLevel_eq_nil quiet, List.nil_append]
      exact forall₂_inserts inserts detours
    issues := by rw [h.issues, List.length_map, List.length_map]
    others := by
      rw [h.events, List.forall_mem_append, List.forall_mem_map]
      exact ⟨fun e mem => .inr (notes e mem), fun detour _ => .inl ⟨_, inserts detour⟩⟩ }

end Converter

end Repair

/-! ### Runs -/

/-- A log agrees with a result. Converters were inserted into a workflow with the given edges. -/
structure Agrees (log : List Event) (r : Result) (edges : List Edge) : Prop where
  /-- Warnings are about the nodes whose types are reported as unknown. -/
  warnings : List.Forall₂ Event.Warns (atLevel "WARN" log) (r.ofKind .unknownNodeType)
  insertions : List.Forall₂ Event.Inserts (atLevel "INFO" log) r.insertedNodes
  stages : (log.filterMap Event.check?).map (·.1) = [.config, .inputs, .ports, .cycles]
  /-- An issue was counted by its stage, or it is the report of an insertion. -/
  counts : ((log.filterMap Event.check?).map (·.2)).sum + (atLevel "INFO" log).length =
    r.issues.length
  notNeeded : ∀ id, .converterNotNeeded id ∈ log → 2 ≤ (edges.map (·.id)).count id
  finished : log.getLast? = some (.finished r.valid r.issues.length r.insertedNodes.length)

namespace Stages

section
variable {s : Stages} {given : List Edge} {sources converters : List Node}
  (completed : ∀ e ∈ s.completed.events, ∃ id type, e = .unknownType id type)
include completed

theorem insertions_eq : atLevel "INFO" s.events =
    atLevel "INFO" s.fed.events ++ atLevel "INFO" s.converted.events := by
  have none : atLevel "INFO" s.completed.events = [] := by
    refine atLevel_eq_nil fun e mem => ?_
    obtain ⟨id, type, rfl⟩ := completed e mem
    simp [Event.level]
  simp only [events, atLevel_append, none]
  simp [atLevel, Event.level]

variable (fed : s.fed.Logged given sources) (converted : s.converted.Logged given converters)
include fed converted

theorem warnings_eq : atLevel "WARN" s.events = s.completed.events := by
  have all : ∀ e ∈ s.completed.events, e.level = "WARN" := by
    intro e mem
    obtain ⟨id, type, rfl⟩ := completed e mem
    rfl
  simp only [events, atLevel_append, fed.warnings_eq_nil, converted.warnings_eq_nil,
    atLevel_eq_self all]
  simp [atLevel, Event.level]

theorem checks_eq : s.events.filterMap Event.check? =
    [(.config, s.completed.issues.length), (.inputs, s.inputs.length), (.ports, s.ports.length),
      (.cycles, s.cycles.length)] := by
  have none : s.completed.events.filterMap Event.check? = [] := by
    rw [List.filterMap_eq_nil_iff]
    intro e mem
    obtain ⟨id, type, rfl⟩ := completed e mem
    rfl
  simp only [events, List.filterMap_append, none, fed.checks_eq_nil, converted.checks_eq_nil]
  rfl

theorem two_le_count_of_logged {id : String} (mem : .converterNotNeeded id ∈ s.events) :
    2 ≤ (given.map (·.id)).count id := by
  have other : .converterNotNeeded id ∉ s.completed.events := by
    intro mem
    obtain ⟨id', type, eq⟩ := completed _ mem
    cases eq
  have repaired : .converterNotNeeded id ∈ s.fed.events ∨
      .converterNotNeeded id ∈ s.converted.events := by
    simpa [events, other] using mem
  exact repaired.elim fed.two_le_count converted.two_le_count

end

variable (catalog : NodeCatalog) (options : Options) (nodes : List Node) (edges : List Edge)

/-- Both repairs are logged, and what they insert is what a run inserts. -/
theorem exists_logged : ∃ sources converters,
    let given := (run catalog options nodes edges).fed.draft.edges.toList
    (run catalog options nodes edges).fed.Logged given sources ∧
    (run catalog options nodes edges).converted.Logged given converters ∧
    (validate catalog options nodes edges).insertedNodes = sources ++ converters := by
  obtain ⟨autoFix, offset⟩ := options
  cases autoFix with
  | false => exact ⟨[], [], Repair.logged_none _ _, Repair.logged_none _ _, rfl⟩
  | true =>
    obtain ⟨feeds, detours, repairs⟩ := exists_repairs catalog nodes edges offset
    have converting := repairs.converting
    rw [repairs.ports] at converting
    refine ⟨_, _, repairs.feeding.logged _, converting.logged, ?_⟩
    rw [← repairs.sources_eq rfl, ← repairs.converters_eq]
    exact repairs.insertedNodes_eq

end Stages

/-- **The log agrees with the result**, whatever was repaired. -/
theorem events_of_validate (catalog : NodeCatalog) (options : Options) (nodes : List Node)
    (edges : List Edge) :
    Agrees (validationEvents catalog options nodes edges) (validate catalog options nodes edges)
      (Stages.run catalog options nodes edges).fed.draft.edges.toList := by
  obtain ⟨sources, converters, fed, converted, inserted⟩ :=
    Stages.exists_logged catalog options nodes edges
  have kinds := Stages.kinds_run catalog options nodes edges
  have completed : ∀ e ∈ (Stages.run catalog options nodes edges).completed.events,
      ∃ id type, e = .unknownType id type := by
    show ∀ e ∈ (Completion.ofNodes catalog nodes).events, _
    rw [Completion.events_ofNodes, List.forall_mem_map]
    exact fun node _ => ⟨_, _, rfl⟩
  have infos := Stages.insertions_eq completed
  have checks := Stages.checks_eq completed fed converted
  exact {
    warnings := by
      rw [validationEvents, Stages.warnings_eq completed fed converted, validate,
        kinds.ofKind_eq, Stages.reportsOf]
      exact Completion.forall₂_warns catalog nodes
    insertions := by
      rw [validationEvents, infos, inserted]
      exact List.rel_append fed.insertions converted.insertions
    stages := by
      rw [validationEvents, checks]
      rfl
    counts := by
      rw [validationEvents, infos, checks, List.length_append, fed.insertions.length_eq,
        converted.insertions.length_eq, ← fed.issues, ← converted.issues]
      simp only [validate, Stages.result, Stages.issues, List.map_cons, List.map_nil, List.sum_cons,
        List.sum_nil, List.length_append]
      omega
    notNeeded := fun _ => Stages.two_le_count_of_logged completed fed converted
    finished := by
      rw [validationEvents, Stages.events, List.getLast?_append]
      rfl }

end Dataflow
