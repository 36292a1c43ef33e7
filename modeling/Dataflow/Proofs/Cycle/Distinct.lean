import Dataflow.Proofs.Cycle.Simple

/-! What tells two reported cycles apart.

The paths to the vertices form a forest: a vertex is come to on one path only, and
every vertex on that path was come to on what stands before it (`Forest`). A cycle is
the end of such a path with one arc back, so its closing arc determines it
(`Forest.eq_of_closingArc`), and so does the set of its ids (`Forest.eq_of_mem_iff`). -/
namespace Dataflow.Graph.Cycle

/-- The cycle is the end of the path, and back by one arc. -/
def ClosedOn (path cycle : List String) : Prop :=
  ∃ before id after, path = before ++ id :: after ∧ cycle = id :: (after ++ [id])

/-- Visits of which the paths branch like a forest. -/
structure Forest (visits : List Visit) : Prop where
  nodup : (ids visits).Nodup
  once : ∀ v ∈ visits, v.path.Nodup
  ancestor : ∀ v ∈ visits, ∀ before id after, v.path = before ++ id :: after →
    ⟨before, id⟩ ∈ visits

namespace Explores

variable {g : Graph} {path seen targets : List String} {visits : List Visit}
  {cycles : List (List String)}

/-- A cycle is closed on the path of the search, or on that of a visit. -/
theorem closedOn (h : Explores g path seen targets visits cycles) :
    ∀ cycle ∈ cycles, ClosedOn path cycle ∨ ∃ v ∈ visits, ClosedOn v.path cycle := by
  induction h with
  | nil => simp
  | @enter path seen id targets inner outer found later fresh below rest ihBelow ihRest =>
    intro cycle mem
    rcases List.mem_append.mp mem with mem | mem
    · right
      rcases ihBelow cycle mem with closed | ⟨v, mem, closed⟩
      · exact ⟨⟨path, id⟩, List.mem_cons_self, closed⟩
      · exact ⟨v, List.mem_cons_of_mem _ (List.mem_append_left _ mem), closed⟩
    · rcases ihRest cycle mem with closed | ⟨v, mem, closed⟩
      · exact .inl closed
      · exact .inr ⟨v, List.mem_cons_of_mem _ (List.mem_append_right _ mem), closed⟩
  | close split _ ih => exact List.forall_mem_cons.mpr ⟨.inl ⟨_, _, _, split, rfl⟩, ih⟩
  | skip _ _ _ ih => exact ih

/-- What is visited is come to from the end of the path. -/
theorem prefix_above (h : Explores g path seen targets visits cycles) :
    ∀ v ∈ visits, path <+: v.above := by
  induction h with
  | nil => simp
  | @enter path seen id targets inner outer found later fresh below rest ihBelow ihRest =>
    refine List.forall_mem_cons.mpr ⟨List.prefix_refl path, ?_⟩
    refine List.forall_mem_append.mpr ⟨fun v mem => ?_, ihRest⟩
    exact (List.prefix_append path [id]).trans (ihBelow v mem)
  | close _ _ ih => exact ih
  | skip _ _ _ ih => exact ih

theorem nodup_path (h : Explores g path seen targets visits cycles) (once : path.Nodup)
    (known : ∀ id ∈ path, id ∈ seen) : ∀ v ∈ visits, v.path.Nodup := by
  induction h with
  | nil => simp
  | @enter path seen id targets inner outer found later fresh below rest ihBelow ihRest =>
    have once_id := nodup_concat_of_fresh once known fresh
    refine List.forall_mem_cons.mpr ⟨once_id, List.forall_mem_append.mpr ⟨?_, ?_⟩⟩
    · exact ihBelow once_id (known_concat known id)
    · exact ihRest once fun a mem => List.mem_append_left _ (known a mem)
  | close _ _ ih => exact ih once known
  | skip _ _ _ ih => exact ih once known

/-- Whatever stands on the path of a visit was come to on what stands before it. -/
theorem ancestor_mem (h : Explores g path seen targets visits cycles) (once : path.Nodup)
    (known : ∀ id ∈ path, id ∈ seen) :
    ∀ v ∈ visits, ∀ before id after, v.path = before ++ id :: after →
      id ∈ path ∨ ⟨before, id⟩ ∈ visits := by
  induction h with
  | nil => simp
  | @enter path seen a targets inner outer found later fresh below rest ihBelow ihRest =>
    have once_a := nodup_concat_of_fresh once known fresh
    intro v mem before id after split
    rcases List.mem_cons.mp mem with rfl | mem
    · rcases List.eq_nil_or_concat' after with rfl | ⟨more, b, rfl⟩
      · obtain ⟨rfl, eq⟩ := List.append_inj' split rfl
        obtain rfl := List.singleton_inj.mp eq
        exact .inr List.mem_cons_self
      · rw [← List.cons_append, ← List.append_assoc] at split
        obtain ⟨rfl, -⟩ := List.append_inj' split rfl
        exact .inl (by simp)
    rcases List.mem_append.mp mem with inside | outside
    · rcases ihBelow once_a (known_concat known a) v inside before id after split with on | visit
      · rcases List.mem_append.mp on with on | last
        · exact .inl on
        · obtain rfl := List.mem_singleton.mp last
          -- The path of the visit goes on from that of `a`, and comes to `a` only once.
          obtain ⟨more, eq⟩ := below.prefix_above v inside
          have once_v := below.nodup_path once_a (known_concat known id) v inside
          have again : path ++ id :: (more ++ [v.id]) = before ++ id :: after := by
            rw [← split, Visit.path, ← eq]
            simp
          rw [split] at once_v
          obtain ⟨rfl, -⟩ := split_unique once_v again.symm
          exact .inr List.mem_cons_self
      · exact .inr (List.mem_cons_of_mem _ (List.mem_append_left _ visit))
    · have known_rest : ∀ id ∈ path, id ∈ seen ++ a :: ids inner :=
        fun id mem => List.mem_append_left _ (known id mem)
      rcases ihRest once known_rest v outside before id after split with on | visit
      · exact .inl on
      · exact .inr (List.mem_cons_of_mem _ (List.mem_append_right _ visit))
  | close _ _ ih => exact ih once known
  | skip _ _ _ ih => exact ih once known

theorem forest (h : Explores g [] [] targets visits cycles) : Forest visits where
  nodup := h.nodup
  once := h.nodup_path .nil (by simp)
  ancestor := by
    intro v mem before id after split
    have := h.ancestor_mem .nil (by simp) v mem before id after split
    simpa using this

end Explores

namespace Forest

variable {visits : List Visit} {v w : Visit} {a b : List String}

/-- A vertex is come to on one path only. -/
theorem eq_of_id (forest : Forest visits) (hv : v ∈ visits) (hw : w ∈ visits) (eq : v.id = w.id) :
    v = w :=
  List.inj_on_of_nodup_map forest.nodup hv hw eq

theorem path_eq_of_id (forest : Forest visits) (hv : v ∈ visits) (hw : w ∈ visits)
    (eq : v.id = w.id) : v.path = w.path := by
  rw [forest.eq_of_id hv hw eq]

/-- A vertex on the path of another one was come to on the beginning of that path. -/
theorem prefix_of_mem (forest : Forest visits) (hv : v ∈ visits) (hw : w ∈ visits)
    (mem : v.id ∈ w.path) : v.path <+: w.path := by
  obtain ⟨before, after, split⟩ := List.append_of_mem mem
  have eq := forest.eq_of_id hv (forest.ancestor w hw before v.id after split) rfl
  rw [eq, split]
  exact ⟨after, by simp [Visit.path]⟩

/-- **A closing arc closes one cycle only.** -/
theorem eq_of_closingArc (forest : Forest visits) (hv : v ∈ visits) (hw : w ∈ visits)
    (on_v : ClosedOn v.path a) (on_w : ClosedOn w.path b) (eq : closingArc a = closingArc b) :
    a = b := by
  obtain ⟨before, id, after, split, rfl⟩ := on_v
  obtain ⟨before', id', after', split', rfl⟩ := on_w
  have last : v.path.getLast? = some v.id := List.getLast?_concat
  have last' : w.path.getLast? = some w.id := List.getLast?_concat
  rw [split] at last
  rw [split'] at last'
  rw [closingArc_cycle last, closingArc_cycle last', Option.some.injEq, Prod.mk.injEq] at eq
  obtain ⟨eq, rfl⟩ := eq
  have same := forest.path_eq_of_id hv hw eq
  have once := forest.once v hv
  rw [split] at once
  rw [split, split'] at same
  obtain ⟨-, rfl⟩ := split_unique once same
  rfl

theorem mem_of_closedOn {path cycle : List String} {id : String} (h : ClosedOn path cycle)
    (mem : id ∈ cycle) : id ∈ path := by
  obtain ⟨before, a, after, rfl, rfl⟩ := h
  simp only [List.mem_cons, List.mem_append, List.not_mem_nil, or_false] at mem ⊢
  tauto

theorem last_mem_of_closedOn (h : ClosedOn v.path a) : v.id ∈ a := by
  obtain ⟨before, id, after, split, rfl⟩ := h
  have last : v.path.getLast? = some v.id := List.getLast?_concat
  rw [split, List.getLast?_append_of_ne_nil _ (List.cons_ne_nil _ _)] at last
  rw [← List.cons_append]
  exact List.mem_append_left _ (List.mem_of_getLast? last)

/-- **The ids on a cycle determine it.** The deepest of them fixes the path on which it
was closed, and the others how far back it goes. -/
theorem eq_of_mem_iff (forest : Forest visits) (hv : v ∈ visits) (hw : w ∈ visits)
    (on_v : ClosedOn v.path a) (on_w : ClosedOn w.path b) (same : ∀ id, id ∈ a ↔ id ∈ b) :
    a = b := by
  have v_on_w := mem_of_closedOn on_w ((same v.id).mp (last_mem_of_closedOn on_v))
  have w_on_v := mem_of_closedOn on_v ((same w.id).mpr (last_mem_of_closedOn on_w))
  have v_prefix := forest.prefix_of_mem hv hw v_on_w
  have w_prefix := forest.prefix_of_mem hw hv w_on_v
  have path_eq : v.path = w.path := v_prefix.eq_of_length_le w_prefix.length_le
  obtain ⟨before, id, after, split, rfl⟩ := on_v
  obtain ⟨before', id', after', split', rfl⟩ := on_w
  have once := forest.once v hv
  have once' := forest.once w hw
  rw [split] at once
  rw [split'] at once'
  have perm : (id :: after).Perm (id' :: after') := by
    rw [List.perm_ext_iff_of_nodup once.of_append_right once'.of_append_right]
    intro c
    simpa [or_comm, or_assoc, or_left_comm] using same c
  rw [split, split'] at path_eq
  obtain ⟨-, eq⟩ := List.append_inj' path_eq perm.length_eq
  obtain ⟨rfl, rfl⟩ := List.cons.inj eq
  rfl

end Forest

end Dataflow.Graph.Cycle
