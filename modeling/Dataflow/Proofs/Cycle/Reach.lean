import Dataflow.Proofs.Cycle.Check
import Dataflow.Proofs.Cycle.Insertion

/-! Paths of a graph in which arcs are led through new vertices.

Between old vertices there is a path in the new graph just if there is one in the old
(`Subdivides.transGen_iff`): an old arc is still there, directly or through a new vertex,
and a path that comes to a new vertex has one way to go on (`Arrived`). Nodes that are
inserted lead to others only, so every cycle comes to an old vertex, and no cycle appears
or goes away (`Insertion.cyclic_iff`). -/
namespace Dataflow.Graph.Cycle

section
variable {ins : List String} {g h : Graph} {u v first target : String}
  {targets firsts via : List String}

/-- Every old target has its leg. -/
theorem Detours.exists_of_target (d : Detours ins h targets firsts) :
    ∀ target ∈ targets, target ∉ ins ∧ ∃ first ∈ firsts, ∃ via, Leg ins h first via target := by
  induction d with
  | nil => simp
  | cons off leg _ _ ih =>
    refine List.forall_mem_cons.mpr ⟨⟨off, _, List.mem_cons_self .., _, leg⟩, fun t mem => ?_⟩
    obtain ⟨off_t, first, first_mem, other⟩ := ih t mem
    exact ⟨off_t, first, List.mem_cons_of_mem _ first_mem, other⟩

/-- Every arc of the new graph out of an old vertex is the first of a leg. -/
theorem Detours.exists_of_first (d : Detours ins h targets firsts) :
    ∀ first ∈ firsts, ∃ target ∈ targets, target ∉ ins ∧ ∃ via, Leg ins h first via target := by
  induction d with
  | nil => simp
  | cons off leg _ _ ih =>
    refine List.forall_mem_cons.mpr ⟨⟨_, List.mem_cons_self .., off, _, leg⟩, fun f mem => ?_⟩
    obtain ⟨target, target_mem, other⟩ := ih f mem
    exact ⟨target, List.mem_cons_of_mem _ target_mem, other⟩

/-- A leg is a path to its target. -/
theorem Leg.transGen (leg : Leg ins h first via target) (next : Adjacent h u first) :
    Relation.TransGen (Adjacent h) u target := by
  cases leg with
  | direct => exact .single next
  | through _ on =>
    have last : Adjacent h first target := by rw [Adjacent, on]; exact List.mem_singleton_self _
    exact .tail (.single next) last

/-- What a path of the new graph that ends in `v` has reached of the old graph: `v` itself,
or if `v` is new what comes next. -/
structure Arrived (ins : List String) (h : Graph) (reached : String → Prop) (v : String) :
    Prop where
  here : v ∉ ins → reached v
  next : v ∈ ins → ∀ w, Adjacent h v w → w ∉ ins ∧ reached w

theorem Leg.arrived {reached : String → Prop} (leg : Leg ins h first via target)
    (off : target ∉ ins) (there : reached target) : Arrived ins h reached first := by
  cases leg with
  | direct => exact ⟨fun _ => there, fun new => absurd new off⟩
  | through new on =>
    refine ⟨fun old => absurd new old, fun _ w last => ?_⟩
    rw [Adjacent, on, List.mem_singleton] at last
    exact last ▸ ⟨off, there⟩

namespace Subdivides

variable (sub : Subdivides ins h g)
include sub

/-- A path of the old graph leads through old vertices, and is there in the new graph. -/
theorem transGen_of_old (old_u : u ∉ ins) (path : Relation.TransGen (Adjacent g) u v) :
    v ∉ ins ∧ Relation.TransGen (Adjacent h) u v := by
  induction path with
  | single arc =>
    obtain ⟨off, first, next, via, leg⟩ := (sub.detours u old_u).exists_of_target _ arc
    exact ⟨off, leg.transGen next⟩
  | @tail b c _ arc ih =>
    obtain ⟨off, first, next, via, leg⟩ := (sub.detours b ih.1).exists_of_target _ arc
    exact ⟨off, ih.2.trans (leg.transGen next)⟩

/-- A path of the new graph has reached what a path of the old graph reaches. -/
theorem arrived_of_new (old_u : u ∉ ins) (path : Relation.TransGen (Adjacent h) u v) :
    Arrived ins h (Relation.TransGen (Adjacent g) u) v := by
  -- A path may break off halfway through a leg; `Arrived` keeps where the leg comes out.
  induction path with
  | single arc =>
    obtain ⟨target, mem, off, via, leg⟩ := (sub.detours u old_u).exists_of_first _ arc
    exact leg.arrived off (.single mem)
  | @tail b c _ arc ih =>
    by_cases old_b : b ∉ ins
    · obtain ⟨target, mem, off, via, leg⟩ := (sub.detours b old_b).exists_of_first _ arc
      exact leg.arrived off (.tail (ih.here old_b) mem)
    · obtain ⟨off, there⟩ := ih.next (not_not.mp old_b) c arc
      exact ⟨fun _ => there, fun new => absurd new off⟩

/-- **Between old vertices there are the paths that there were.** -/
theorem transGen_iff (old_u : u ∉ ins) (old_v : v ∉ ins) :
    Relation.TransGen (Adjacent h) u v ↔ Relation.TransGen (Adjacent g) u v :=
  ⟨fun path => (sub.arrived_of_new old_u path).here old_v,
    fun path => (sub.transGen_of_old old_u path).2⟩

end Subdivides

end

/-! ### Cycles -/

namespace Insertion

variable {nodes added : List Node} {edges edges' : List Edge}

theorem transGen_iff (ins : Insertion nodes added edges edges') {u v : String}
    (old_u : u ∉ added.map (·.id)) (old_v : v ∉ added.map (·.id)) :
    Relation.TransGen (Arc edges') u v ↔ Relation.TransGen (Arc edges) u v := by
  have paths := ins.sub.transGen_iff old_u old_v
  rwa [adjacent_ofLists, adjacent_ofLists] at paths

/-- **Inserting nodes neither makes a cycle nor breaks one.** -/
theorem cyclic_iff (ins : Insertion nodes added edges edges') :
    Cyclic (Arc edges') ↔ Cyclic (Arc edges) := by
  constructor
  · intro cyclic
    obtain ⟨u, cycle⟩ := cyclic
    by_cases old_u : u ∉ added.map (·.id)
    · exact ⟨u, (ins.transGen_iff old_u old_u).mp cycle⟩
    · -- The next vertex is old, and on the cycle as well.
      obtain ⟨v, arc, back⟩ := Relation.TransGen.head'_iff.mp cycle
      have old_v := ins.apart v (ins.out u (not_not.mp old_u) v arc)
      exact ⟨v, (ins.transGen_iff old_v old_v).mp (.tail' back arc)⟩
  · intro cyclic
    obtain ⟨u, cycle⟩ := cyclic
    obtain ⟨v, arc, -⟩ := Relation.TransGen.head'_iff.mp cycle
    have old_u := ins.not_mem_of_endpoint u (mem_endpoints_of_arc arc).1
    exact ⟨u, (ins.transGen_iff old_u old_u).mpr cycle⟩

end Insertion

/-! ### Closed walks -/

section
variable {R : String → String → Prop}

/-- Some arc leads to the last vertex of a walk. -/
theorem exists_arc_getLast {a b : String} {rest : List String}
    (along : (a :: b :: rest).IsChain R) : ∃ u, ∀ last ∈ (a :: b :: rest).getLast?, R u last := by
  induction rest generalizing a b with
  | nil => exact ⟨a, by simpa using along⟩
  | cons c rest ih =>
    obtain ⟨u, arc⟩ := ih (List.isChain_cons_cons.mp along).2
    exact ⟨u, by simpa using arc⟩

/-- A closed walk leaves some vertex to which an arc leads. -/
theorem exists_passed {walk : List String} (two_le : 2 ≤ walk.length)
    (closed : walk.head? = walk.getLast?) (along : walk.IsChain R) :
    ∃ u a b, R u a ∧ R a b ∧ a ∈ walk ∧ b ∈ walk := by
  match walk with
  | a :: b :: rest =>
    obtain ⟨u, arc⟩ := exists_arc_getLast along
    exact ⟨u, a, b, arc a closed.symm, (List.isChain_cons_cons.mp along).1, by simp, by simp⟩

end

end Dataflow.Graph.Cycle
