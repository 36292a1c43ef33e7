import Dataflow.Entries
import Mathlib.Data.List.Basic
import Mathlib.Data.List.Nodup

/-! Keys.

Where the members of a list have different keys, a key finds the one member that has it
(`find?_key_eq_some_iff`). Entries that are written one after the other stand in ascending
order of their keys (`ascending_ofList`), and entries that stand so are written as they are
(`ofList_of_ascending`). -/
namespace Dataflow.Entries

variable {α : Type}

/-- Where keys are different, a key is found on the one member that has it. -/
theorem find?_key_eq_some_iff {keyOf : α → String} {xs : List α} (distinct : (xs.map keyOf).Nodup)
    {key : String} {x : α} :
    (xs.find? fun x => keyOf x == key) = some x ↔ x ∈ xs ∧ keyOf x = key := by
  constructor
  · intro found
    exact ⟨List.mem_of_find?_eq_some found, by simpa using List.find?_some found⟩
  · rintro ⟨mem, rfl⟩
    have found : (xs.find? fun y => keyOf y == keyOf x).isSome = true := by
      rw [List.find?_isSome]
      exact ⟨x, mem, beq_self_eq_true _⟩
    obtain ⟨first, first_found⟩ := Option.isSome_iff_exists.mp found
    have same : keyOf first = keyOf x := by simpa using List.find?_some first_found
    have first_mem := List.mem_of_find?_eq_some first_found
    rw [first_found, List.inj_on_of_nodup_map distinct first_mem mem same]

/-- The keys ascend, so that none is repeated. -/
def Ascending (entries : Entries α) : Prop := entries.Pairwise fun a b => a.1 < b.1

theorem mem_insert {key : String} {value : α} {entries : Entries α} {entry : String × α}
    (h : entry ∈ insert key value entries) : entry = (key, value) ∨ entry ∈ entries := by
  induction entries with
  | nil => exact .inl (List.mem_singleton.1 h)
  | cons first rest ih =>
    unfold insert at h
    split at h
    · exact List.mem_cons.1 h
    · split at h
      · exact (List.mem_cons.1 h).imp_right (List.mem_cons_of_mem first)
      · obtain rfl | h := List.mem_cons.1 h
        · exact .inr List.mem_cons_self
        · exact (ih h).imp_right (List.mem_cons_of_mem first)

theorem ascending_insert {entries : Entries α} (h : Ascending entries) (key : String) (value : α) :
    Ascending (insert key value entries) := by
  induction entries with
  | nil => exact List.pairwise_singleton _ _
  | cons first rest ih =>
    obtain ⟨least, rest_ascending⟩ := List.pairwise_cons.1 h
    unfold insert
    split
    · next before =>
      refine List.pairwise_cons.2 ⟨List.forall_mem_cons.2 ⟨before, fun entry mem => ?_⟩, h⟩
      exact String.lt_trans before (least entry mem)
    · next behind =>
      split
      · next same =>
        exact List.pairwise_cons.2 ⟨fun entry mem => same ▸ least entry mem, rest_ascending⟩
      · next ne =>
        have after : first.1 < key := by
          rw [← String.not_le]
          intro le
          exact ne (String.le_antisymm le (String.not_lt.1 behind))
        refine List.pairwise_cons.2 ⟨fun entry mem => ?_, ih rest_ascending⟩
        obtain rfl | mem := mem_insert mem
        · exact after
        · exact least entry mem

/-- An entry behind all others is put at the end. -/
theorem insert_of_forall_lt {entries : Entries α} {key : String}
    (last : ∀ entry ∈ entries, entry.1 < key) (value : α) :
    insert key value entries = entries ++ [(key, value)] := by
  induction entries with
  | nil => rfl
  | cons first rest ih =>
    obtain ⟨lt, last⟩ := List.forall_mem_cons.1 last
    have behind : ¬ key < first.1 := fun before =>
      String.lt_irrefl _ (String.lt_trans lt before)
    rw [insert_of_behind behind fun same => String.lt_irrefl _ (same ▸ lt), ih last,
      List.cons_append]

theorem ascending_ofList (entries : List (String × α)) : Ascending (ofList entries) :=
  List.foldlRecOn (motive := Ascending) entries _ .nil
    fun _ h entry _ => ascending_insert h entry.1 entry.2

theorem mem_ofList {entries : List (String × α)} {entry : String × α}
    (h : entry ∈ ofList entries) : entry ∈ entries := by
  have kept := List.foldlRecOn (motive := fun found : Entries α => ∀ e ∈ found, e ∈ entries)
    entries (fun all e => insert e.1 e.2 all) (List.forall_mem_nil _)
    fun found kept written mem e he => (mem_insert he).elim (fun same => same ▸ mem) (kept e)
  exact kept entry h

theorem foldl_insert_of_ascending {entries : Entries α} (found : Entries α)
    (h : Ascending (found ++ entries)) :
    entries.foldl (fun all entry => insert entry.1 entry.2 all) found = found ++ entries := by
  induction entries generalizing found with
  | nil => simp
  | cons first rest ih =>
    have last : ∀ entry ∈ found, entry.1 < first.1 := fun entry mem =>
      (List.pairwise_append.1 h).2.2 entry mem first List.mem_cons_self
    have again : found ++ first :: rest = found ++ [first] ++ rest := by simp
    rw [List.foldl_cons, insert_of_forall_lt last, again]
    exact ih _ (again ▸ h)

theorem ofList_of_ascending {entries : Entries α} (h : Ascending entries) :
    ofList entries = entries := foldl_insert_of_ascending [] h

end Dataflow.Entries
