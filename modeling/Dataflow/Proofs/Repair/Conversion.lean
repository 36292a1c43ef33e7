import Dataflow.Proofs.Draft.History
import Dataflow.Proofs.Repair.Detour

/-! Converting edges on anyone's word.

A conversion goes by the issues that it is given, whoever reported them and when. It replaces the
edges that share an id with one of the issues and that themselves need a converter
(`connectionOf?`); issues of edges that are gone, or no longer need one, do nothing. Joining the
two edges of each detour again gives back the edges from before (`Detoured.joined`). -/
namespace Dataflow.Repair.Converter

open Draft (History Op)

/-- Whether this is a connection through a converter. -/
def needsConverter : Option Compatibility → Bool
  | some (.convertible _) => true
  | _ => false

theorem needsConverter_iff {how : Option Compatibility} :
    needsConverter how = true ↔ ∃ type, how = some (.convertible type) := by
  cases how with
  | none => simp [needsConverter]
  | some how => cases how <;> simp [needsConverter]

/-! ### Joining edges again -/

/-- Puts two edges together behind each other wherever the first one has one of the ids. -/
def join (ids : List String) : List Edge → List Edge
  | into :: out :: edges =>
    if into.id ∈ ids then
      ⟨into.id, into.source, out.target, into.sourceHandle, out.targetHandle⟩ :: join ids edges
    else into :: join ids (out :: edges)
  | edges => edges

theorem join_cons_of_not_mem {ids : List String} {e : Edge} (off : e.id ∉ ids)
    (edges : List Edge) : join ids (e :: edges) = e :: join ids edges := by
  cases edges with
  | nil => rfl
  | cons out edges => rw [join, if_neg off]

theorem join_detour {ids : List String} {d : Detour} (mem : d.intoId ∈ ids) (edges : List Edge) :
    join ids (d.into :: d.out :: edges) = { d.edge with id := d.intoId } :: join ids edges := by
  rw [join, if_pos (show d.into.id ∈ ids from mem)]
  rfl

/-- The same edge, but for its id if it was replaced. -/
def SameBut (replaced : Edge → Bool) (e e' : Edge) : Prop :=
  e' = { e with id := e'.id } ∧ (replaced e = false → e' = e)

namespace Detoured

variable {connection : Edge → Option Compatibility} {before after : List Edge}
  {detours : List Detour} (h : Detoured connection before after detours)
include h

/-- The edges of the detours are those that connect through a converter. -/
theorem edges_eq_filter :
    detours.map (·.edge) = before.filter fun e => needsConverter (connection e) := by
  induction h with
  | nil => rfl
  | @keep e before after detours direct rest ih =>
    have kept : ¬ needsConverter (connection e) = true := by
      rw [needsConverter_iff, not_exists]
      exact direct
    rw [List.filter_cons, if_neg kept, ih]
  | through d needed rest ih =>
    have converted := needsConverter_iff.mpr ⟨d.type, needed⟩
    rw [List.filter_cons, if_pos converted, List.map_cons, ih]

/-- **The edges from before come back** when the edges of each detour are joined. -/
theorem joined {ids : List String} (all : ∀ d ∈ detours, d.intoId ∈ ids)
    (off : ∀ e ∈ before, e.id ∉ ids) :
    List.Forall₂ (SameBut fun e => needsConverter (connection e)) before (join ids after) := by
  induction h with
  | nil => exact .nil
  | keep direct rest ih =>
    rw [List.forall_mem_cons] at off
    rw [join_cons_of_not_mem off.1]
    exact .cons ⟨rfl, fun _ => rfl⟩ (ih all off.2)
  | through d needed rest ih =>
    rw [List.forall_mem_cons] at off all
    have converted := needsConverter_iff.mpr ⟨d.type, needed⟩
    rw [join_detour all.1]
    exact .cons ⟨rfl, fun kept => absurd (kept.symm.trans converted) Bool.false_ne_true⟩
      (ih all.2 off.2)

end Detoured

/-! ### Conversions -/

/-- What a conversion on the word of some issues makes of a draft, by some detours. -/
structure Converts (catalog : NodeCatalog) (issues : List Issue) (d : Draft) (r : Repair)
    (detours : List Detour) : Prop where
  /-- The edges that the issues call for and that need a converter are replaced, -/
  replaced : detours.map (·.edge) = d.edges.toList.filter fun e =>
    needsConverter (connectionOf? catalog issues d.nodes.toList e)
  /-- each in its place and through a converter of the type that its ports need; -/
  detoured : Detoured (connectionOf? catalog issues d.nodes.toList) d.edges.toList
    r.draft.edges.toList detours
  /-- all other edges are the same, and these too once the edges of each detour are joined. -/
  joined : List.Forall₂
    (SameBut fun e => needsConverter (connectionOf? catalog issues d.nodes.toList e))
    d.edges.toList (join (detours.map (·.intoId)) r.draft.edges.toList)
  /-- The converters come behind the nodes, in the order of the edges, -/
  nodes : r.draft.nodes.toList = d.nodes.toList ++ detours.map (·.node)
  inserted : r.draft.inserted.toList = d.inserted.toList ++ detours.map (·.node)
  /-- and stand halfway between the nodes of their edges. -/
  halfway : ∀ detour ∈ detours, ∃ source target,
    d.node? detour.edge.source = some source ∧ d.node? detour.edge.target = some target ∧
      detour.node.position = ⟨(source.position.x + target.position.x) / 2,
        (source.position.y + target.position.y) / 2⟩
  /-- Their ids are different, and no node had one. -/
  nodeIds : (detours.map (·.node.id)).Nodup ∧
    ∀ node ∈ d.nodes.toList, node.id ∉ detours.map (·.node.id)
  /-- So are the ids of the new edges, and no edge had one. -/
  edgeIds : (detours.flatMap fun detour => [detour.into.id, detour.out.id]).Nodup ∧
    ∀ e ∈ d.edges.toList, e.id ∉ detours.flatMap fun detour => [detour.into.id, detour.out.id]
  /-- Every converter is reported, in their order. -/
  issues : r.issues = detours.map (·.issue)

theorem converts_repair {catalog : NodeCatalog} {issues : List Issue} {d : Draft}
    (indexed : d.Indexed) (taken : ∀ e ∈ d.edges.toList, e.id ∈ d.takenEdgeIds) :
    ∃ detours, Converts catalog issues d (repair catalog issues d) detours := by
  obtain ⟨detours, h⟩ := converting_repair catalog issues d indexed
  have detoured : Detoured (connectionOf? catalog issues d.nodes.toList) d.edges.toList
      (repair catalog issues d).draft.edges.toList detours := by
    rw [← edges_plans catalog issues d]
    refine h.carried.detoured fun p planned type => ?_
    obtain ⟨e, -, rfl⟩ := List.mem_map.mp planned
    exact (exists_ofEdge_eq_through_iff indexed).symm
  have off : ∀ e ∈ d.edges.toList, e.id ∉ detours.flatMap (·.edgeIds) :=
    fun e mem new => h.edgeIds.fresh e.id new (taken e mem)
  refine ⟨detours, {
    replaced := detoured.edges_eq_filter
    detoured
    joined := ?_
    nodes := h.nodes
    inserted := h.inserted
    halfway := ?_
    nodeIds := ?_
    edgeIds := ⟨h.edgeIds.nodup, off⟩
    issues := h.issues }⟩
  · refine detoured.joined (fun detour mem => List.mem_map_of_mem mem) fun e mem new => ?_
    obtain ⟨detour, detour_mem, id⟩ := List.mem_map.mp new
    refine off e mem (List.mem_flatMap.mpr ⟨detour, detour_mem, ?_⟩)
    exact id ▸ List.mem_cons_self
  · intro detour mem
    obtain ⟨e, -, planned⟩ := List.mem_map.mp (h.carried.plan_mem detour mem)
    obtain ⟨rfl, plan⟩ := Prod.mk.inj planned
    exact ((ofEdge_eq_through_iff_connectionOf? indexed).mp plan).2
  · have nodup := h.apart.nodup
    rw [List.map_map] at nodup
    refine ⟨nodup, fun node mem new => ?_⟩
    obtain ⟨detour, detour_mem, id⟩ := List.mem_map.mp new
    exact h.apart.off _ (List.mem_map_of_mem detour_mem) node mem id.symm

/-- **A conversion replaces the edges that it is called for on and that need it**, and does
nothing else: in any draft that operations have led to, so long as the ids of its edges are taken,
and on the word of any issues. -/
theorem converts_of_run (catalog : NodeCatalog) (issues : List Issue) (nodes : List Node)
    (edges : List Edge) (ops : List Op)
    (taken : ∀ e ∈ ((History.start nodes edges).run ops).draft.edges.toList,
      e.id ∈ ((History.start nodes edges).run ops).draft.takenEdgeIds) :
    ∃ detours, Converts catalog issues ((History.start nodes edges).run ops).draft
      (repair catalog issues ((History.start nodes edges).run ops).draft) detours :=
  converts_repair (History.indexed_run (Draft.indexed_ofLists nodes edges) ops) taken

/-- Of three edges with one id, two need a converter, and one of these is a loop, whose converter
stands where its node does; the edge `g` needs one, but no issue calls for it. -/
theorem converts_of_run_shared :
    let port (type : String) : PortDefinition := ⟨"port", type, false⟩
    let catalog : Catalog := ⟨[⟨"loader", ⟨[], [port "json"]⟩, []⟩,
      ⟨"mixer", ⟨[port "text"], [port "json"]⟩, []⟩,
      ⟨"mirror", ⟨[port "json"], []⟩, []⟩], by decide⟩
    let issues : List Issue := [.ofEdge .convertibleTypeMismatch "gone" "",
      .ofEdge .convertibleTypeMismatch "e" "", .ofEdge .unresolvedPort "g" ""]
    let nodes : List Node := [⟨"a", "loader", ⟨0, 0⟩, []⟩, ⟨"m", "mixer", ⟨10, 20⟩, []⟩]
    let edges : List Edge := [⟨"e", "a", "m", some "port", .none⟩, ⟨"e", "a", "z", .none, .none⟩]
    let ops : List Op := [.insertNode ⟨"z", "mirror", .origin, []⟩,
      .pushEdge ⟨"e", "m", "m", .none, some "port"⟩, .pushEdge ⟨"g", "a", "m", .none, .none⟩]
    let d := ((History.start nodes edges).run ops).draft
    (∀ e ∈ d.edges.toList, e.id ∈ d.takenEdgeIds) ∧
      (repair catalog issues d).draft.edges.toList.map (·.id) =
        ["auto-edge-1", "auto-edge-2", "e", "auto-edge-3", "auto-edge-4", "g"] ∧
      (repair catalog issues d).draft.inserted.toList.map
          (fun node => (node.id, node.position.x, node.position.y)) =
        [("z", 0, 0), ("auto-stringify-1", 5, 10), ("auto-stringify-2", 10, 20)] ∧
      ∃ detours, Converts catalog issues d (repair catalog issues d) detours := by
  intro port catalog issues nodes edges ops d
  have taken : ∀ e ∈ d.edges.toList, e.id ∈ d.takenEdgeIds := by decide +kernel
  exact ⟨taken, by decide +kernel, by decide +kernel,
    converts_of_run catalog issues nodes edges ops taken⟩

end Dataflow.Repair.Converter
