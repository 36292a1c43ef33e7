/-! Values under text keys, in ascending order of the keys.

Keys compare character by character. `insert` keeps the order and replaces what
stands under an equal key, so the last write wins (`get?_insert`). Writing what was
written changes nothing, also when other keys were written since
(`insert_insert_self`, `insert_insert_eq_self`). -/
namespace Dataflow

abbrev Entries (α : Type) := List (String × α)

namespace Entries

variable {α : Type}

def insert (key : String) (value : α) : Entries α → Entries α
  | [] => [(key, value)]
  | entry :: rest =>
    if key < entry.1 then (key, value) :: entry :: rest
    else if key = entry.1 then (key, value) :: rest
    else entry :: insert key value rest

def get? (key : String) : Entries α → Option α
  | [] => none
  | entry :: rest => if key = entry.1 then some entry.2 else get? key rest

/-- Entries written one after the other. -/
def ofList (entries : List (String × α)) : Entries α :=
  entries.foldl (fun all entry => insert entry.1 entry.2 all) []

theorem get?_insert_self (key : String) (value : α) (entries : Entries α) :
    get? key (insert key value entries) = some value := by
  induction entries with
  | nil => simp [insert, get?]
  | cons entry rest ih =>
    unfold insert
    split
    · simp [get?]
    · split
      · simp [get?]
      · next h => simpa [get?, h] using ih

theorem get?_insert_ne {key other : String} (h : other ≠ key) (value : α) (entries : Entries α) :
    get? other (insert key value entries) = get? other entries := by
  induction entries with
  | nil => simp [insert, get?, h]
  | cons entry rest ih =>
    unfold insert
    split
    · simp [get?, h]
    · split
      · next heq => simp [get?, h, ← heq]
      · simp [get?, ih]

/-- The last write to a key is what stands under it. -/
theorem get?_insert (key other : String) (value : α) (entries : Entries α) :
    get? other (insert key value entries) =
      if other = key then some value else get? other entries := by
  split
  · next h => rw [h, get?_insert_self]
  · next h => exact get?_insert_ne h value entries

section
variable {key : String} {value : α} {entry : String × α} {rest : Entries α}

theorem insert_of_lt (before : key < entry.1) :
    insert key value (entry :: rest) = (key, value) :: entry :: rest := if_pos before

theorem insert_of_eq (same : key = entry.1) :
    insert key value (entry :: rest) = (key, value) :: rest := by
  rw [insert, if_neg (same ▸ String.lt_irrefl key), if_pos same]

theorem insert_of_behind (behind : ¬ key < entry.1) (ne : key ≠ entry.1) :
    insert key value (entry :: rest) = entry :: insert key value rest := by
  rw [insert, if_neg behind, if_neg ne]

end

/-- Writing the same again changes nothing. -/
theorem insert_insert_self (key : String) (value : α) (entries : Entries α) :
    insert key value (insert key value entries) = insert key value entries := by
  induction entries with
  | nil => exact insert_of_eq rfl
  | cons entry rest ih =>
    by_cases before : key < entry.1
    · rw [insert_of_lt before]
      exact insert_of_eq rfl
    · by_cases same : key = entry.1
      · rw [insert_of_eq same]
        exact insert_of_eq rfl
      · rw [insert_of_behind before same, insert_of_behind before same, ih]

/-- What stands under a key stays there when another key is written. -/
theorem insert_insert_eq_self {key other : String} (ne : key ≠ other) {value : α} (v : α)
    {entries : Entries α} (stands : insert key value entries = entries) :
    insert key value (insert other v entries) = insert other v entries := by
  induction entries with
  | nil => cases stands
  | cons entry rest ih =>
    have behind : ¬ key < entry.1 := by
      intro before
      rw [insert_of_lt before] at stands
      exact absurd (congrArg List.length stands) (by simp)
    by_cases before : other < entry.1
    · have behind_other : ¬ key < other := fun h => behind (String.lt_trans h before)
      rw [insert_of_lt before, insert_of_behind behind_other ne, stands]
    · by_cases same : other = entry.1
      · rw [insert_of_behind behind (same ▸ ne)] at stands
        rw [insert_of_eq same, insert_of_behind (same ▸ behind) ne, (List.cons.inj stands).2]
      · rw [insert_of_behind before same]
        by_cases here : key = entry.1
        · rw [insert_of_eq here] at stands ⊢
          rw [(List.cons.inj stands).1]
        · rw [insert_of_behind behind here] at stands ⊢
          rw [ih (List.cons.inj stands).2]

example : ofList [("b", 1), ("a", 2), ("b", 3)] = [("a", 2), ("b", 3)] := by decide

end Entries

end Dataflow
