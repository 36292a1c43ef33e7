import Dataflow.Graph.Cycle
import Mathlib.Data.Finset.Card
import Mathlib.Data.List.Nodup

/-! Explorations: what a depth-first search comes to, without its machine.

`Explores g path seen targets visits cycles` says that a search which stands at the
end of `path`, and has visited `seen`, looks at `targets` in order, goes on to new
vertices as in `visits` and closes `cycles`, each as often as it is met. The roots
are the targets of an empty path. Every list of targets has an exploration
(`exists_explores`), and it visits no vertex twice (`Explores.nodup`). -/
namespace Dataflow.Graph.Cycle

/-- A vertex that is visited, and the path on which it is come to. -/
structure Visit where
  above : List String
  id : String

/-- The path as it is once the vertex is on it. -/
def Visit.path (v : Visit) : List String := v.above ++ [v.id]

def ids (visits : List Visit) : List String := visits.map (·.id)

@[simp] theorem ids_nil : ids [] = [] := rfl

@[simp] theorem ids_cons (v : Visit) (visits : List Visit) :
    ids (v :: visits) = v.id :: ids visits := rfl

@[simp] theorem ids_append (a b : List Visit) : ids (a ++ b) = ids a ++ ids b := by simp [ids]

/-! ### Paths of new vertices -/

section
variable {path seen : List String}

theorem nodup_concat_of_fresh {id : String} (once : path.Nodup) (known : ∀ id ∈ path, id ∈ seen)
    (fresh : id ∉ seen) : (path ++ [id]).Nodup := by
  rw [← List.concat_eq_append, List.nodup_concat]
  exact ⟨fun mem => fresh (known id mem), once⟩

theorem known_concat (known : ∀ id ∈ path, id ∈ seen) (id : String) :
    ∀ a ∈ path ++ [id], a ∈ seen ++ [id] := by
  intro a mem
  rw [List.mem_append] at mem ⊢
  exact mem.imp_left (known a)

/-- A vertex stands at one place of a simple path. -/
theorem split_unique {before after before' after' : List String} {id : String}
    (once : (before ++ id :: after).Nodup)
    (eq : before ++ id :: after = before' ++ id :: after') : before = before' ∧ after = after' := by
  have off : id ∉ before ∧ id ∉ after := by
    rw [List.nodup_middle, List.nodup_cons, List.mem_append, not_or] at once
    exact once.1
  obtain ⟨rfl, -, rfl⟩ := (List.append_cons_inj_of_notMem off.1 off.2).mp eq
  exact ⟨rfl, rfl⟩

end

/-! ### Explorations -/

inductive Explores (g : Graph) :
    List String → List String → List String → List Visit → List (List String) → Prop where
  | nil {path seen} : Explores g path seen [] [] []
  /-- A new vertex is gone on to, and its successors are looked at before the others. -/
  | enter {path seen id targets inner outer found later} (fresh : id ∉ seen)
      (below : Explores g (path ++ [id]) (seen ++ [id]) (g.successors id) inner found)
      (rest : Explores g path (seen ++ id :: ids inner) targets outer later) :
      Explores g path seen (id :: targets) (⟨path, id⟩ :: (inner ++ outer)) (found ++ later)
  /-- A vertex on the path closes a cycle. -/
  | close {path seen id targets visits found before after} (split : path = before ++ id :: after)
      (rest : Explores g path seen targets visits found) :
      Explores g path seen (id :: targets) visits ((id :: (after ++ [id])) :: found)
  /-- Any other vertex that was visited is passed over. -/
  | skip {path seen id targets visits found} (known : id ∈ seen) (off : id ∉ path)
      (rest : Explores g path seen targets visits found) :
      Explores g path seen (id :: targets) visits found

namespace Explores

variable {g : Graph} {path seen targets : List String} {visits : List Visit}
  {cycles : List (List String)}

/-- One list of targets after another. -/
theorem append {others : List String} {more : List Visit} {later : List (List String)}
    (h : Explores g path seen targets visits cycles)
    (rest : Explores g path (seen ++ ids visits) others more later) :
    Explores g path seen (targets ++ others) (visits ++ more) (cycles ++ later) := by
  induction h with
  | nil => simpa using rest
  | enter fresh below _ _ ih =>
    have outer := ih (by simpa using rest)
    simpa using Explores.enter fresh below outer
  | close split _ ih => exact .close split (ih rest)
  | skip known off _ ih => exact .skip known off (ih rest)

/-- Targets that were all visited are passed over. -/
theorem skipAll (known : ∀ id ∈ targets, id ∈ seen) (off : ∀ id ∈ targets, id ∉ path) :
    Explores g path seen targets [] [] := by
  induction targets with
  | nil => exact .nil
  | cons id targets ih =>
    simp only [List.forall_mem_cons] at known off
    exact .skip known.1 off.1 (ih known.2 off.2)

/-- What is visited was not visited before. -/
theorem not_mem_seen (h : Explores g path seen targets visits cycles) :
    ∀ id ∈ ids visits, id ∉ seen := by
  induction h with
  | nil => simp
  | enter fresh _ _ ihBelow ihRest =>
    intro id mem
    simp only [ids_cons, ids_append, List.mem_cons, List.mem_append] at mem
    rcases mem with rfl | mem | mem
    · exact fresh
    · exact fun known => ihBelow id mem (List.mem_append_left _ known)
    · exact fun known => ihRest id mem (List.mem_append_left _ known)
  | close _ _ ih => exact ih
  | skip _ _ _ ih => exact ih

/-- No vertex is visited twice. -/
theorem nodup (h : Explores g path seen targets visits cycles) : (ids visits).Nodup := by
  induction h with
  | nil => simp
  | @enter path seen id targets inner outer found later fresh below rest ihBelow ihRest =>
    have inner_fresh := below.not_mem_seen
    have outer_fresh := rest.not_mem_seen
    rw [ids_cons, ids_append, List.nodup_cons, List.nodup_append]
    refine ⟨?_, ihBelow, ihRest, ?_⟩
    · intro mem
      rcases List.mem_append.mp mem with mem | mem
      · exact inner_fresh id mem (by simp)
      · exact outer_fresh id mem (by simp)
    · intro a inner_mem b outer_mem eq
      subst eq
      exact outer_fresh a outer_mem (by simp [inner_mem])
  | close _ _ ih => exact ih
  | skip _ _ _ ih => exact ih

/-- Every target ends up visited. -/
theorem target_mem (h : Explores g path seen targets visits cycles)
    (known : ∀ id ∈ path, id ∈ seen) : ∀ id ∈ targets, id ∈ seen ++ ids visits := by
  induction h with
  | nil => simp
  | enter _ _ _ _ ihRest =>
    intro id mem
    rcases List.mem_cons.mp mem with rfl | mem
    · simp
    · have := ihRest (fun id mem => List.mem_append_left _ (known id mem)) id mem
      simp only [List.mem_append, List.mem_cons, ids_cons, ids_append] at this ⊢
      grind
  | close split _ ih =>
    intro id mem
    rcases List.mem_cons.mp mem with rfl | mem
    · exact List.mem_append_left _ (known _ (by simp [split]))
    · exact ih known id mem
  | skip seen_id _ _ ih =>
    intro id mem
    rcases List.mem_cons.mp mem with rfl | mem
    · exact List.mem_append_left _ seen_id
    · exact ih known id mem

/-- What is visited satisfies whatever the targets do and successors inherit. -/
theorem forall_ids {P : String → Prop} (h : Explores g path seen targets visits cycles)
    (targets_P : ∀ id ∈ targets, P id) (inherit : ∀ id, P id → ∀ next ∈ g.successors id, P next) :
    ∀ id ∈ ids visits, P id := by
  induction h with
  | nil => simp
  | enter _ _ _ ihBelow ihRest =>
    simp only [List.forall_mem_cons] at targets_P
    simp only [ids_cons, ids_append, List.forall_mem_cons, List.forall_mem_append]
    exact ⟨targets_P.1, ihBelow (inherit _ targets_P.1), ihRest targets_P.2⟩
  | close _ _ ih => exact ih fun id mem => targets_P id (List.mem_cons_of_mem _ mem)
  | skip _ _ _ ih => exact ih fun id mem => targets_P id (List.mem_cons_of_mem _ mem)

end Explores

/-- Whether arcs lead to vertices only. -/
def Closed (g : Graph) : Prop := ∀ id ∈ g.vertices, ∀ next ∈ g.successors id, next ∈ g.vertices

/-- The vertices that are not visited. -/
def unseen (g : Graph) (seen : List String) : Finset String :=
  g.vertices.toFinset \ seen.toFinset

theorem card_unseen_lt {g : Graph} {seen : List String} {id : String} (vertex : id ∈ g.vertices)
    (fresh : id ∉ seen) (more : List String) :
    (unseen g (seen ++ id :: more)).card < (unseen g seen).card := by
  apply Finset.card_lt_card
  rw [Finset.ssubset_iff_of_subset]
  · exact ⟨id, by simp [unseen, vertex, fresh], by simp [unseen]⟩
  · intro a
    simp only [unseen, Finset.mem_sdiff, List.mem_toFinset, List.mem_append, List.mem_cons]
    tauto

/-- Vertices can be explored from any state of a search: every visit leaves fewer that
are unseen, and every other target is done with at once. -/
theorem exists_explores {g : Graph} (closed : Closed g) (path seen targets : List String)
    (vertices : ∀ id ∈ targets, id ∈ g.vertices) :
    ∃ visits cycles, Explores g path seen targets visits cycles := by
  induction bound : (unseen g seen).card using Nat.strong_induction_on
    generalizing path seen targets with
  | _ n ih =>
    subst bound
    induction targets with
    | nil => exact ⟨_, _, .nil⟩
    | cons id targets ihTargets =>
      simp only [List.forall_mem_cons] at vertices
      by_cases fresh : id ∈ seen
      · obtain ⟨visits, cycles, rest⟩ := ihTargets vertices.2
        by_cases on : id ∈ path
        · obtain ⟨before, after, split⟩ := List.append_of_mem on
          exact ⟨_, _, .close split rest⟩
        · exact ⟨_, _, .skip fresh on rest⟩
      · obtain ⟨inner, found, below⟩ := ih _ (card_unseen_lt vertices.1 fresh [])
          (path ++ [id]) (seen ++ [id]) (g.successors id) (closed id vertices.1) rfl
        obtain ⟨outer, later, rest⟩ := ih _ (card_unseen_lt vertices.1 fresh (ids inner))
          path (seen ++ id :: ids inner) targets vertices.2 rfl
        exact ⟨_, _, .enter fresh below rest⟩

end Dataflow.Graph.Cycle
