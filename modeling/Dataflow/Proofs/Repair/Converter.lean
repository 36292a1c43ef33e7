import Dataflow.Proofs.Draft.Fresh
import Dataflow.Repair.Converter

/-! What converting edges does to a draft.

Each edge that is to be led through a converter is replaced, in its place, by two edges
through a new node under a fresh id; the other edges stay (`Carried`). The converters are
added at the end of the nodes, and nothing else of the draft changes
(`converting_repair`). -/
namespace Dataflow.Repair.Converter

open Draft (Indexed Apart HandedOut)

/-! ### Reported edges -/

theorem mem_reported_iff {issues : List Issue} {id : String} : id ∈ reported issues ↔
    ∃ issue ∈ issues, issue.kind = .convertibleTypeMismatch ∧ issue.edgeId = some id := by
  simp [reported, Draft.mem_foldl_insert, and_assoc]

/-! ### Detours -/

/-- One edge converted: the edge, the converter, and the ids of the two new edges. -/
structure Detour where
  edge : Edge
  type : String
  position : Position
  nodeId : String
  intoId : String
  outId : String

namespace Detour

def node (d : Detour) : Node := ⟨d.nodeId, d.type, d.position, Defaults.config d.type⟩

def into (d : Detour) : Edge := ⟨d.intoId, d.edge.source, d.nodeId, d.edge.sourceHandle, .none⟩

def out (d : Detour) : Edge := ⟨d.outId, d.nodeId, d.edge.target, .none, d.edge.targetHandle⟩

/-- The ids of the two edges. -/
def edgeIds (d : Detour) : List String := [d.intoId, d.outId]

def issue (d : Detour) : Issue := inserted d.nodeId d.type d.edge

def event (d : Detour) : Event := .insertedConverter d.nodeId d.type d.edge.id

end Detour

theorem ids_converters (detours : List Detour) :
    (detours.map (·.node)).map (·.id) = detours.map (·.nodeId) := by
  simp [Detour.node, Function.comp_def]

/-- Plans carried out: the edges that they leave, and the detours that were made. -/
inductive Carried : List (Edge × Plan) → List Edge → List Detour → Prop where
  | nil : Carried [] [] []
  | keep {e plan plans edges detours} (kept : ∀ type position, plan ≠ .through type position)
      (rest : Carried plans edges detours) : Carried ((e, plan) :: plans) (e :: edges) detours
  | through {plans edges detours} (d : Detour) (rest : Carried plans edges detours) :
      Carried ((d.edge, .through d.type d.position) :: plans) (d.into :: d.out :: edges)
        (d :: detours)

namespace Carried

variable {plans more : List (Edge × Plan)} {edges others : List Edge} {detours later : List Detour}

theorem append (first : Carried plans edges detours) (second : Carried more others later) :
    Carried (plans ++ more) (edges ++ others) (detours ++ later) := by
  induction first with
  | nil => exact second
  | keep kept _ ih => exact .keep kept ih
  | through d _ ih => exact .through d ih

/-- A detour carries out a plan. -/
theorem plan_mem (h : Carried plans edges detours) :
    ∀ d ∈ detours, (d.edge, .through d.type d.position) ∈ plans := by
  induction h with
  | nil => simp
  | keep _ _ ih => exact fun d mem => List.mem_cons_of_mem _ (ih d mem)
  | through d _ ih =>
    rw [List.forall_mem_cons]
    exact ⟨List.mem_cons_self .., fun d mem => List.mem_cons_of_mem _ (ih d mem)⟩

/-- An edge that is left was kept, or belongs to a detour. -/
theorem kept_mem (h : Carried plans edges detours) : ∀ e ∈ edges,
    (∃ plan, (e, plan) ∈ plans ∧ ∀ type position, plan ≠ .through type position) ∨
      ∃ d ∈ detours, e = d.into ∨ e = d.out := by
  induction h with
  | nil => simp
  | @keep e plan plans edges detours kept _ ih =>
    rw [List.forall_mem_cons]
    refine ⟨.inl ⟨plan, List.mem_cons_self .., kept⟩, fun a mem => (ih a mem).imp_left ?_⟩
    exact fun ⟨plan, mem, kept⟩ => ⟨plan, List.mem_cons_of_mem _ mem, kept⟩
  | @through plans edges detours d _ ih =>
    simp only [List.forall_mem_cons]
    refine ⟨.inr ⟨d, by simp⟩, .inr ⟨d, by simp⟩, fun a mem => ?_⟩
    rcases ih a mem with ⟨plan, mem, kept⟩ | ⟨d', d'_mem, eq⟩
    · exact .inl ⟨plan, List.mem_cons_of_mem _ mem, kept⟩
    · exact .inr ⟨d', List.mem_cons_of_mem _ d'_mem, eq⟩

/-- An edge that is left was there before, or belongs to a detour. -/
theorem edge_mem (h : Carried plans edges detours) :
    ∀ e ∈ edges, e ∈ plans.map (·.1) ∨ ∃ d ∈ detours, e = d.into ∨ e = d.out :=
  fun e mem => (h.kept_mem e mem).imp_left fun ⟨_, planned, _⟩ => List.mem_map_of_mem planned

/-- Without detours all edges were kept. -/
theorem edges_eq (h : Carried plans edges detours) (none : detours = []) :
    edges = plans.map (·.1) := by
  induction h with
  | nil => rfl
  | keep _ _ ih => exact congrArg _ (ih none)
  | through d _ _ => cases none

end Carried

/-- What a repair makes of a draft by carrying out plans, which leave the given edges. It
logs the detours behind some notes. -/
structure Converting (notes : List Event) (plans : List (Edge × Plan)) (d : Draft)
    (edges : List Edge) (r : Repair) (detours : List Detour) : Prop where
  carried : Carried plans edges detours
  indexed : Indexed r.draft
  nodes : r.draft.nodes.toList = d.nodes.toList ++ detours.map (·.node)
  inserted : r.draft.inserted.toList = d.inserted.toList ++ detours.map (·.node)
  issues : r.issues = detours.map (·.issue)
  events : r.events = notes ++ detours.map (·.event)
  apart : Apart d.nodes.toList (detours.map (·.node))
  edgeIds : HandedOut d.takenEdgeIds r.draft.takenEdgeIds (detours.flatMap (·.edgeIds))

section
variable {d : Draft}

/-- Edges that are kept leave the draft as it is. -/
theorem converting_none {plans : List (Edge × Plan)} {edges : List Edge} (indexed : Indexed d)
    (carried : Carried plans edges []) : Converting [] plans d edges (.none d) [] where
  carried := carried
  indexed := indexed
  nodes := by simp
  inserted := by simp
  issues := rfl
  events := rfl
  apart := .nil
  edgeIds := .refl _

theorem converting_edge (indexed : Indexed d) (e : Edge) (plan : Plan) :
    ∃ detours, Converting [] [(e, plan)] d (convertEdge e plan d).edges
      (convertEdge e plan d).repair detours := by
  cases plan with
  | keep => exact ⟨[], converting_none indexed (.keep (by simp) .nil)⟩
  | notNeeded => exact ⟨[], converting_none indexed (.keep (by simp) .nil)⟩
  | through type position =>
    let node := d.freshNodeId type
    let into := node.2.freshEdgeId
    let out := into.2.freshEdgeId
    let detour : Detour := ⟨e, type, position, node.1, into.1, out.1⟩
    exact ⟨[detour], {
      carried := .through detour .nil
      indexed := (((indexed.freshNodeId type).freshEdgeId).freshEdgeId).insertNode _
      nodes := Array.toList_push
      inserted := Array.toList_push
      issues := rfl
      events := rfl
      apart := .singleton (indexed.not_mem_freshNodeId type)
      edgeIds := (Draft.handedOut_freshEdgeId node.2).trans (Draft.handedOut_freshEdgeId into.2) }⟩

/-- One conversion after another. -/
theorem Converting.andThen {notes : List Event} {plans more : List (Edge × Plan)}
    {edges others : List Edge} {r : Repair} {next : Draft → Repair} {detours later : List Detour}
    (first : Converting notes plans d edges r detours)
    (second : Converting [] more r.draft others (next r.draft) later) :
    Converting notes (plans ++ more) d (edges ++ others) (r.andThen next) (detours ++ later) where
  carried := first.carried.append second.carried
  indexed := second.indexed
  nodes := by simpa [first.nodes] using second.nodes
  inserted := by simpa [first.inserted] using second.inserted
  issues := by simp [first.issues, second.issues]
  events := by simp [first.events, second.events]
  apart := by
    have apart := second.apart
    rw [first.nodes] at apart
    simpa using first.apart.append apart
  edgeIds := by simpa using first.edgeIds.trans second.edgeIds

theorem converting_convert (plans : List (Edge × Plan)) (indexed : Indexed d) :
    ∃ detours, Converting [] plans d (convert plans d).edges (convert plans d).repair detours := by
  induction plans generalizing d with
  | nil => exact ⟨[], converting_none indexed .nil⟩
  | cons p plans ih =>
    obtain ⟨e, plan⟩ := p
    obtain ⟨detours, one⟩ := converting_edge indexed e plan
    let converted := convertEdge e plan d
    obtain ⟨later, others⟩ := ih one.indexed
    have both : Converting [] ([(e, plan)] ++ plans) d
        (converted.edges ++ (convert plans converted.repair.draft).edges)
        (converted.repair.andThen fun _ => (convert plans converted.repair.draft).repair)
        (detours ++ later) := one.andThen others
    exact ⟨detours ++ later, both⟩

end

section
variable (catalog : NodeCatalog) (issues : List Issue) (d : Draft)

/-- What is planned for the edges of a draft. -/
def plans : List (Edge × Plan) :=
  d.edges.toList.map fun e => (e, Plan.ofEdge catalog d (reported issues) e)

theorem edges_plans : (plans catalog issues d).map (·.1) = d.edges.toList := by
  simp [plans, Function.comp_def]

/-- An edge is led through a converter only if both its ends are nodes. -/
theorem ends_of_through {e : Edge} {type : String} {position : Position} (indexed : Indexed d)
    (mem : (e, .through type position) ∈ plans catalog issues d) :
    (∃ node ∈ d.nodes.toList, node.id = e.source) ∧
      ∃ node ∈ d.nodes.toList, node.id = e.target := by
  obtain ⟨e, -, eq⟩ := List.mem_map.mp mem
  obtain ⟨rfl, plan⟩ := Prod.mk.inj eq
  have found {id : String} {node : Node} (h : d.node? id = some node) :
      ∃ node ∈ d.nodes.toList, node.id = id := by
    rw [indexed.node?_eq_find?] at h
    exact ⟨node, List.mem_of_find?_eq_some h, by simpa using List.find?_some h⟩
  unfold Plan.ofEdge at plan
  split at plan
  · split at plan
    · split at plan
      · next source target => exact ⟨found source, found target⟩
      · cases plan
    · cases plan
  · cases plan

/-- **A repair carries out its plans**: the edges are those that the plans leave, and the
converters are added behind the nodes. -/
theorem converting_repair (indexed : Indexed d) :
    ∃ detours, Converting ((plans catalog issues d).flatMap fun p => p.2.events p.1)
      (plans catalog issues d) d (repair catalog issues d).draft.edges.toList
      (repair catalog issues d) detours := by
  obtain ⟨detours, h⟩ := converting_convert (plans catalog issues d) indexed
  exact ⟨detours, { h with
    indexed := h.indexed.replaceEdges _
    events := congrArg _ h.events }⟩

end

end Dataflow.Repair.Converter
