import Dataflow.Proofs.Draft.Alike
import Dataflow.Proofs.Port.Connection
import Dataflow.Proofs.Repair.Converter

/-! Repairs of alike drafts.

Which node is fed and by what, and which edge is led through what, is a matter of ids and types.
So feeding the same nodes of alike drafts leaves alike drafts and reports the same
(`Source.alike_insertAll`), though the sources may stand elsewhere. Plans for the edges of alike
drafts differ in positions only (`Converter.unplaced_ofEdge`), and so does what they lead to
(`Converter.alike_repair`). -/
namespace Dataflow

/-! ### Checks -/

section
variable (catalog : NodeCatalog) {d d' : Draft} (h : d.Alike d')
include h

/-- Alike nodes have the same required inputs. -/
theorem Port.Supply.check_alike : check catalog d' = check catalog d := by
  rw [check, check, h.edges]
  refine flatMap_congr_of_outlines (fun n n' same => ?_) h.nodes
  obtain ⟨id, type⟩ := Node.outline_eq_iff.mp same
  rw [id, nodeIssues_congr id type rfl]

/-- Edges have the same ends. -/
theorem Port.Ends.ofEdge_alike (e : Edge) : ofEdge catalog d' e = ofEdge catalog d e := by
  have type (id : String) : (d'.node? id).map (·.type) = (d.node? id).map (·.type) := by
    have same := congrArg (Option.map (·.2)) (h.outline_node? id)
    rwa [Option.map_map, Option.map_map] at same
  exact ofEdge_congr (type e.source) (type e.target)

theorem Port.Ends.check_alike : check catalog d' = check catalog d := by
  rw [check, check, h.edges]
  exact List.flatMap_congr fun e _ => by rw [ofEdge_alike catalog h]

theorem Graph.Cycle.check_alike : check d' = check d := by
  have same : ofDraft d' = ofDraft d := by
    rw [ofDraft, ofDraft, h.edges, ofLists_congr (map_id_of_outlines h.nodes)]
  rw [check, check, same]

end

/-! ### Repairs -/

namespace Repair

/-- The drafts are alike, and the reports are the same. -/
structure Alike (r r' : Repair) : Prop where
  draft : r.draft.Alike r'.draft
  issues : r'.issues = r.issues
  events : r'.events = r.events

namespace Alike

theorem none {d d' : Draft} (h : d.Alike d') : Alike (.none d) (.none d') := ⟨h, rfl, rfl⟩

theorem andThen {r r' : Repair} (first : Alike r r') (next next' : Draft → Repair)
    (second : Alike (next r.draft) (next' r'.draft)) :
    Alike (r.andThen next) (r'.andThen next') where
  draft := second.draft
  issues := by simp only [issues_andThen, first.issues, second.issues]
  events := by simp only [events_andThen, first.events, second.events]

end Alike

/-! ### Sources -/

namespace Source

section
variable {d d' : Draft} (h : d.Alike d')
include h

/-- Wherever the node stands, its source gets the same id. -/
theorem alike_insert (offset offset' : Float) (id : String) (node node' : Node)
    (port : PortDefinition) :
    (insert offset id node port d).Alike (insert offset' id node' port d') := by
  have fresh := h.freshNodeId (nodeType port.type)
  simp only [insert, h.freshNodeId_eq, fresh.freshEdgeId_eq]
  exact ⟨(fresh.freshEdgeId.pushEdge _).insertNode (by simp only [Node.unplaced_mk]), rfl, rfl⟩

/-- The same port is to be fed, of alike nodes, or none in both. -/
theorem target?_cases (catalog : NodeCatalog) (id : String) :
    (target? catalog d id = .none ∧ target? catalog d' id = .none) ∨
      ∃ node node' port, target? catalog d id = some (node, port) ∧
        target? catalog d' id = some (node', port) := by
  unfold target?
  rcases h.node?_cases id with ⟨none, none'⟩ | ⟨node, node', found, found', outline⟩
  · simp [none, none']
  · have type := (Node.outline_eq_iff.mp outline).2
    cases required : (Port.Supply.required catalog node.type).head? with
    | none => simp [found, found', type, required]
    | some port => simp [found, found', type, required]

end

/-- **Feeding the same ids of alike drafts** does the same, positions apart. -/
theorem alike_insertAll (catalog : NodeCatalog) (offset offset' : Float) (ids : List String)
    {d d' : Draft} (h : d.Alike d') :
    (insertAll catalog offset ids d).Alike (insertAll catalog offset' ids d') := by
  induction ids generalizing d d' with
  | nil => exact .none h
  | cons id ids ih =>
    rw [insertAll, insertAll]
    rcases target?_cases h catalog id with ⟨none, none'⟩ | ⟨node, node', port, found, found'⟩
    · simp only [none, none']
      exact ih h
    · simp only [found, found']
      have one := alike_insert h offset offset' id node node' port
      exact one.andThen _ _ (ih one.draft)

end Source

/-! ### Converters -/

namespace Converter

/-- The plan wherever the converter stands. -/
def Plan.unplaced : Plan → Plan
  | through type _ => through type .origin
  | plan => plan

theorem Plan.events_unplaced (e : Edge) (plan : Plan) : plan.unplaced.events e = plan.events e := by
  cases plan <;> rfl

/-- The same edges, with alike repairs. -/
structure Converted.Alike (c c' : Converted) : Prop where
  edges : c'.edges = c.edges
  repair : c.repair.Alike c'.repair

section
variable {d d' : Draft} (h : d.Alike d')
include h

theorem alike_insert (e : Edge) (type : String) (position position' : Position) :
    (insert e type position d).Alike (insert e type position' d') := by
  have fresh := h.freshNodeId type
  have into := fresh.freshEdgeId
  simp only [insert, h.freshNodeId_eq, fresh.freshEdgeId_eq, into.freshEdgeId_eq]
  exact ⟨rfl, into.freshEdgeId.insertNode (by simp only [Node.unplaced_mk]), rfl, rfl⟩

theorem alike_convertEdge (e : Edge) {plan plan' : Plan} (same : plan'.unplaced = plan.unplaced) :
    (convertEdge e plan d).Alike (convertEdge e plan' d') := by
  cases plan with
  | keep =>
    cases plan' with
    | keep => exact ⟨rfl, .none h⟩
    | notNeeded => cases same
    | through type' position' => cases same
  | notNeeded =>
    cases plan' with
    | keep => cases same
    | notNeeded => exact ⟨rfl, .none h⟩
    | through type' position' => cases same
  | through type position =>
    cases plan' with
    | keep => cases same
    | notNeeded => cases same
    | through type' position' =>
      obtain ⟨rfl, -⟩ := Plan.through.inj same
      exact alike_insert h e type' position position'

end

/-- Carrying out the same plans, but for positions. -/
theorem alike_convert (edges : List Edge) {plan plan' : Edge → Plan}
    (same : ∀ e, (plan' e).unplaced = (plan e).unplaced) {d d' : Draft} (h : d.Alike d') :
    (convert (edges.map fun e => (e, plan e)) d).Alike
      (convert (edges.map fun e => (e, plan' e)) d') := by
  induction edges generalizing d d' with
  | nil => exact ⟨rfl, .none h⟩
  | cons e edges ih =>
    have one := alike_convertEdge h e (same e)
    have others := ih one.repair.draft
    simp only [List.map_cons, convert]
    refine ⟨?_, one.repair.andThen (fun _ => _) (fun _ => _) others.repair⟩
    rw [one.edges, others.edges]

section
variable (catalog : NodeCatalog) {d d' : Draft} (h : d.Alike d')
include h

/-- **What is planned for an edge** is a matter of ids and types, positions apart. -/
theorem unplaced_ofEdge (ids : Std.TreeSet String) (e : Edge) :
    (Plan.ofEdge catalog d' ids e).unplaced = (Plan.ofEdge catalog d ids e).unplaced := by
  unfold Plan.ofEdge
  rw [Port.Ends.ofEdge_alike catalog h]
  split
  · split
    · rcases h.node?_cases e.source with ⟨none, none'⟩ | ⟨n, n', at_source, at_source', -⟩
      · simp only [none, none']
      · rcases h.node?_cases e.target with ⟨none, none'⟩ | ⟨m, m', at_target, at_target', -⟩
        · simp only [at_source, at_source', none, none']
        · simp only [at_source, at_source', at_target, at_target', Plan.unplaced]
    · rfl
  · rfl

/-- **Converting the same edges of alike drafts** does the same, positions apart. -/
theorem alike_repair (issues : List Issue) :
    (repair catalog issues d).Alike (repair catalog issues d') := by
  have same := unplaced_ofEdge catalog h (reported issues)
  have planned : plans catalog issues d' =
      d.edges.toList.map fun e => (e, Plan.ofEdge catalog d' (reported issues) e) := by
    rw [plans, h.edges]
  have converted : (convert (plans catalog issues d) d).Alike
      (convert (plans catalog issues d') d') := by
    rw [planned]
    exact alike_convert d.edges.toList same h
  have notes : ((plans catalog issues d').flatMap fun p => p.2.events p.1) =
      (plans catalog issues d).flatMap fun p => p.2.events p.1 := by
    rw [planned, plans, List.flatMap_map, List.flatMap_map]
    refine List.flatMap_congr fun e _ => ?_
    rw [← Plan.events_unplaced, same e, Plan.events_unplaced]
  refine ⟨?_, converted.repair.issues, ?_⟩
  · show Draft.Alike (Draft.replaceEdges _ (convert (plans catalog issues d) d).edges)
      (Draft.replaceEdges _ (convert (plans catalog issues d') d').edges)
    rw [converted.edges]
    exact converted.repair.draft.replaceEdges _
  · show _ ++ (convert (plans catalog issues d') d').repair.events =
      _ ++ (convert (plans catalog issues d) d).repair.events
    rw [converted.repair.events]
    exact congrArg (· ++ _) notes

end

end Converter

end Repair

end Dataflow
