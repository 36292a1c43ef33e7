import Dataflow.Proofs.Cycle.Run
import Mathlib.Data.List.Chain

/-! Simple cycles, and the arcs that close them.

Every cycle that a search reports is a simple cycle of the arcs
(`Explores.simpleCycle`), closed by the arc from its last vertex but one to its
last. Without the closing arcs no cycle is left: all that a vertex leads to is done
with before the vertex is, so that every vertex is accessible along the other arcs
(`Explores.acc`). -/
namespace Dataflow.Graph.Cycle

/-- A path along arcs that ends where it starts, and comes to no vertex twice before. -/
structure SimpleCycle (R : String → String → Prop) (path : List String) : Prop where
  two_le : 2 ≤ path.length
  closed : path.head? = path.getLast?
  along : path.IsChain R
  once : path.dropLast.Nodup

/-- Every id on a simple cycle is an end of an arc. -/
theorem SimpleCycle.forall_mem {R : String → String → Prop} {p : String → Prop} {path : List String}
    (h : SimpleCycle R path) (ends : ∀ u v, R u v → p u ∧ p v) : ∀ id ∈ path, p id := by
  have arc := List.isChain_iff_getElem.mp h.along
  have two_le := h.two_le
  intro id mem
  obtain ⟨i, lt, rfl⟩ := List.getElem_of_mem mem
  by_cases next : i + 1 < path.length
  · exact (ends _ _ (arc i next)).1
  · -- The last id has no arc from it, but one to it.
    obtain ⟨j, rfl⟩ : ∃ j, i = j + 1 := ⟨i - 1, by omega⟩
    exact (ends _ _ (arc j lt)).2

/-- Whether some vertex is on a cycle, loops included. -/
def Cyclic (R : String → String → Prop) : Prop := ∃ id, Relation.TransGen R id id

/-- The last two ids of a path. -/
def closingArc (path : List String) : Option (String × String) :=
  match path.reverse with
  | target :: source :: _ => some (source, target)
  | _ => none

theorem closingArc_append (path : List String) (source target : String) :
    closingArc (path ++ [source, target]) = some (source, target) := by
  simp [closingArc]

/-- A cycle that is closed on a path is closed by an arc from the end of the path. -/
theorem closingArc_cycle {before after : List String} {id last : String}
    (h : (before ++ id :: after).getLast? = some last) :
    closingArc (id :: (after ++ [id])) = some (last, id) := by
  rcases List.eq_nil_or_concat' after with rfl | ⟨rest, b, rfl⟩
  · obtain rfl : id = last := by simpa using h
    exact closingArc_append [] id id
  · rw [← List.cons_append, ← List.append_assoc, List.getLast?_concat] at h
    obtain rfl : b = last := by simpa using h
    simpa using closingArc_append (id :: rest) b id

namespace Explores

variable {g : Graph} {path seen targets : List String} {visits : List Visit}
  {cycles : List (List String)}

/-- **Every cycle reported is a simple cycle**, if the search stands at the end of a
simple path and looks at successors only. -/
theorem simpleCycle {R : String → String → Prop}
    (arcs : ∀ u, ∀ v ∈ g.successors u, R u v) (h : Explores g path seen targets visits cycles)
    (along : path.IsChain R) (once : path.Nodup) (known : ∀ id ∈ path, id ∈ seen)
    (next : ∀ last ∈ path.getLast?, ∀ id ∈ targets, R last id) :
    ∀ cycle ∈ cycles, SimpleCycle R cycle := by
  induction h with
  | nil => simp
  | @enter path seen id targets inner outer found later fresh below rest ihBelow ihRest =>
    simp only [List.forall_mem_cons] at next
    have along_id : (path ++ [id]).IsChain R :=
      List.isChain_append.mpr ⟨along, .singleton id, by simpa using fun last h => (next last h).1⟩
    have inside := ihBelow along_id (nodup_concat_of_fresh once known fresh)
      (known_concat known id) (by simpa using arcs id)
    have outside := ihRest along once
      (fun a mem => List.mem_append_left _ (known a mem)) fun last h => (next last h).2
    simpa only [List.forall_mem_append] using ⟨inside, outside⟩
  | @close path seen id targets visits found before after split rest ih =>
    simp only [List.forall_mem_cons] at next
    refine List.forall_mem_cons.mpr ⟨?_, ih along once known fun last h => (next last h).2⟩
    subst split
    have last_arc : ∀ last ∈ (id :: after).getLast?, R last id := by
      intro last mem
      exact (next last (by simpa [List.getLast?_append] using mem)).1
    rw [← List.cons_append]
    exact {
      two_le := by simp
      closed := by rw [List.getLast?_concat]; rfl
      along := List.isChain_append.mpr
        ⟨along.right_of_append, .singleton id, by simpa using last_arc⟩
      once := by rw [List.dropLast_concat]; exact once.of_append_right }
  | skip _ _ _ ih =>
    exact ih along once known fun last h id mem => next last h id (List.mem_cons_of_mem _ mem)

/-- **Without the closing arcs every visit is accessible.** A vertex that is done with
leads only to vertices done with before, and a vertex on the path is come to by closing
arcs alone. -/
theorem acc {R : String → String → Prop} (arcs : ∀ u v, R u v → v ∈ g.successors u)
    (h : Explores g path seen targets visits cycles)
    (cut : ∀ cycle ∈ cycles, ∀ u v, closingArc cycle = some (u, v) → ¬ R u v)
    (done : ∀ id ∈ seen, id ∉ path → Acc (Function.swap R) id) :
    (∀ id ∈ ids visits, Acc (Function.swap R) id) ∧
      ∀ last ∈ path.getLast?, ∀ id ∈ targets, R last id → Acc (Function.swap R) id := by
  induction h with
  | nil => simp
  | @enter path seen id targets inner outer found later fresh below rest ihBelow ihRest =>
    rw [List.forall_mem_append] at cut
    obtain ⟨inner_acc, next_acc⟩ := ihBelow cut.1 (by
      intro a mem off
      simp only [List.mem_append, List.mem_singleton, not_or] at mem off
      exact done a (mem.resolve_right off.2) off.1)
    have id_acc : Acc (Function.swap R) id :=
      ⟨_, fun a arc => next_acc id (by simp) a (arcs id a arc) arc⟩
    obtain ⟨outer_acc, targets_acc⟩ := ihRest cut.2 (by
      intro a mem off
      simp only [List.mem_append, List.mem_cons] at mem
      rcases mem with mem | rfl | mem
      · exact done a mem off
      · exact id_acc
      · exact inner_acc a mem)
    refine ⟨?_, fun last mem => List.forall_mem_cons.mpr ⟨fun _ => id_acc, targets_acc last mem⟩⟩
    simpa only [ids_cons, ids_append, List.forall_mem_cons, List.forall_mem_append] using
      ⟨id_acc, inner_acc, outer_acc⟩
  | @close path seen id targets visits found before after split rest ih =>
    rw [List.forall_mem_cons] at cut
    obtain ⟨visits_acc, targets_acc⟩ := ih cut.2 done
    refine ⟨visits_acc, fun last mem => ?_⟩
    refine List.forall_mem_cons.mpr ⟨fun arc => ?_, targets_acc last mem⟩
    exact absurd arc (cut.1 last id (closingArc_cycle (split ▸ mem)))
  | @skip path seen id targets visits found known off rest ih =>
    obtain ⟨visits_acc, targets_acc⟩ := ih cut done
    exact ⟨visits_acc, fun last mem =>
      List.forall_mem_cons.mpr ⟨fun _ => done id known off, targets_acc last mem⟩⟩

end Explores

end Dataflow.Graph.Cycle
