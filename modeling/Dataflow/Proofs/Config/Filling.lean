import Dataflow.Proofs.Config.Completion
import Mathlib.Data.List.Forall2

/-! What stands under a key after completion.

Completion changes the entries of required keys that were unset, and no others. What such an
entry comes to can be told from the configuration before (`settled`): the fields of a key are
gone through until one leaves something else than the empty text, and the default of the type is
tried with each of them. No step of the loop over the fields changes what an entry comes to
(`entry_cons_of_filled` and its siblings), so that it stands there when the loop is through
(`get?_fill`). -/
namespace Dataflow

namespace ConfigValue

/-- Whether a value is the empty text. -/
def isBlank : ConfigValue → Bool
  | string s => s.isEmpty
  | _ => false

theorem isBlank_iff {v : ConfigValue} : v.isBlank = true ↔ v = .string "" := by
  cases v <;> simp [isBlank]

end ConfigValue

namespace Completion

/-- The defaults that fields of a key declare, in the order of the fields. -/
def declared (fields : List ConfigField) (key : String) : List ConfigValue :=
  (fields.filter fun field => field.key == key).filterMap (·.default)

/-- What an unset entry comes to that some of the fields require: the default of the type, or
else the first declared default that is not the empty text, or else the empty text if that is
declared, or else what stood there. -/
def settled (type : String) (fields : List ConfigField) (key : String)
    (before : Option ConfigValue) : Option ConfigValue :=
  ((Defaults.value type key).or ((declared fields key).find? fun v => !v.isBlank)).or
    (if (declared fields key).any (·.isBlank) then some (.string "") else before)

/-- What an entry comes to: only those change that are unset and required. -/
def entry (type : String) (fields : List ConfigField) (config : Config) (key : String) :
    Option ConfigValue :=
  if config.unset key && fields.any (fun field => field.key == key) then
    settled type fields key (config.get? key)
  else config.get? key

section
variable {type key : String} {field : ConfigField} {fields : List ConfigField} {config : Config}
  {before : Option ConfigValue} {value : ConfigValue}

theorem declared_cons_of_ne (other : field.key ≠ key) :
    declared (field :: fields) key = declared fields key := by
  simp [declared, other]

theorem declared_cons_self :
    declared (field :: fields) field.key = field.default.toList ++ declared fields field.key := by
  cases own : field.default <;> simp [declared, own]

theorem settled_of_table (table : Defaults.value type key = some value) :
    settled type fields key before = some value := by
  simp [settled, table]

/-- Without a default of the type, a field that declares none makes no difference. -/
theorem settled_cons_of_missing (missing : default? type field = none) :
    settled type (field :: fields) field.key before = settled type fields field.key before := by
  obtain ⟨-, own⟩ := default?_eq_none_iff.mp missing
  rw [settled, settled, declared_cons_self, own, Option.toList_none, List.nil_append]

/-- A default other than the empty text is taken at once. -/
theorem settled_cons_of_filled (found : default? type field = some value)
    (filled : value.isBlank = false) :
    settled type (field :: fields) field.key before = some value := by
  cases table : Defaults.value type field.key with
  | some v => simpa [default?, table, settled_of_table table] using found
  | none =>
    have own : field.default = some value := by simpa [default?, table] using found
    simp [settled, declared_cons_self, table, own, filled]

/-- The empty text is passed by, as if it had stood there before. -/
theorem settled_cons_of_blank (found : default? type field = some (.string "")) :
    settled type (field :: fields) field.key before =
      settled type fields field.key (some (.string "")) := by
  cases table : Defaults.value type field.key with
  | some v => rw [settled_of_table table, settled_of_table table]
  | none =>
    have own : field.default = some (.string "") := by simpa [default?, table] using found
    simp [settled, declared_cons_self, table, own, ConfigValue.isBlank]

/-- Where no field is of the key, there is only the default of the type. -/
theorem settled_of_not_any (none : fields.any (fun field => field.key == key) = false) :
    settled type fields key before = (Defaults.value type key).or before := by
  have no_field : (fields.filter fun field => field.key == key) = [] := by
    rw [List.filter_eq_nil_iff]
    exact List.any_eq_false.mp none
  simp [settled, declared, no_field]

theorem entry_of_set (set : ¬ config.unset key = true) :
    entry type fields config key = config.get? key := by
  simp [entry, set]

theorem entry_cons_of_ne (other : field.key ≠ key) :
    entry type (field :: fields) config key = entry type fields config key := by
  simp [entry, settled, declared_cons_of_ne other, other]

/-- A field whose entry is set is passed by. -/
theorem entry_cons_of_set (set : ¬ config.unset field.key = true) :
    entry type (field :: fields) config key = entry type fields config key := by
  by_cases same : field.key = key
  · subst same
    rw [entry_of_set set, entry_of_set set]
  · exact entry_cons_of_ne same

/-- A field without a default is passed by. -/
theorem entry_cons_of_missing (unset : config.unset field.key = true)
    (missing : default? type field = none) :
    entry type (field :: fields) config key = entry type fields config key := by
  by_cases same : field.key = key
  · subst same
    obtain ⟨table, -⟩ := default?_eq_none_iff.mp missing
    rw [entry, entry, unset, settled_cons_of_missing missing]
    cases later : fields.any fun other => other.key == field.key with
    | true => simp
    | false => simp [settled_of_not_any later, table]
  · exact entry_cons_of_ne same

/-- An entry that was filled comes to the same as before. -/
theorem entry_cons_of_filled (unset : config.unset field.key = true)
    (found : default? type field = some value) : entry type (field :: fields) config key =
      entry type fields (Entries.insert field.key value config) key := by
  by_cases same : field.key = key
  · subst same
    have stands : (Entries.insert field.key value config).get? field.key = some value :=
      Entries.get?_insert_self field.key value config
    have here : entry type (field :: fields) config field.key =
        settled type (field :: fields) field.key (config.get? field.key) := by
      simp [entry, unset]
    rw [here]
    cases blank : value.isBlank with
    | false =>
      have set : ¬ Config.unset (Entries.insert field.key value config) field.key = true := by
        rw [Config.unset_insert, if_pos rfl, ← ConfigValue.isBlank_iff, blank]
        exact Bool.false_ne_true
      rw [settled_cons_of_filled found blank, entry_of_set set, stands]
    | true =>
      obtain rfl := ConfigValue.isBlank_iff.mp blank
      have still :
          Config.unset (Entries.insert field.key (.string "") config) field.key = true := by
        rw [Config.unset_insert, if_pos rfl]
      rw [settled_cons_of_blank found, entry, stands, still, Bool.true_and]
      cases later : fields.any fun other => other.key == field.key with
      | true => rfl
      | false =>
        rw [settled_of_not_any later]
        cases table : Defaults.value type field.key with
        | none => rfl
        | some v => simpa [default?, table] using found
  · have elsewhere : (Entries.insert field.key value config).get? key = config.get? key :=
      Entries.get?_insert_ne (Ne.symm same) value config
    have unset_iff :
        Config.unset (Entries.insert field.key value config) key = config.unset key := by
      simp only [Config.unset, elsewhere]
    rw [entry_cons_of_ne same, entry, entry, elsewhere, unset_iff]

end

/-- **What stands under a key** after filling is what its entry comes to. -/
theorem get?_fill (nodeId type : String) (fields : List ConfigField) (config : Config)
    (key : String) :
    (fill nodeId type fields config).1.get? key = entry type fields config key := by
  fun_induction fill nodeId type fields config with
  | case1 config => simp [entry]
  | case2 field fields config unset value found config' issues eq ih =>
    rw [eq] at ih
    rw [ih, entry_cons_of_filled unset found]
  | case3 field fields config unset missing config' issues eq ih =>
    rw [eq] at ih
    rw [ih, entry_cons_of_missing unset missing]
  | case4 field fields config set ih => rw [ih, entry_cons_of_set set]

/-- Filling removes no entry. -/
theorem isSome_get?_fill {nodeId type : String} {fields : List ConfigField} {config : Config}
    {key : String} (stands : (config.get? key).isSome = true) :
    ((fill nodeId type fields config).1.get? key).isSome = true := by
  rw [get?_fill, entry]
  split
  · rw [settled, Option.isSome_or, Bool.or_eq_true]
    right
    split
    · rfl
    · exact stands
  · exact stands

/-! ### Nodes -/

/-- How a node comes out of completion. -/
structure Settles (catalog : NodeCatalog) (before after : Node) : Prop where
  id : after.id = before.id
  type : after.type = before.type
  position : after.position = before.position
  /-- A node of unknown type is left alone. -/
  unknown : catalog.definition before.type = none → after = before
  /-- In a node of known type, an entry changes only if it is required and was unset. -/
  others : ∀ d, catalog.definition before.type = some d → ∀ key,
    ¬ (before.config.unset key = true ∧ ∃ field ∈ d.requiredFields, field.key = key) →
      after.config.get? key = before.config.get? key
  /-- Such an entry settles. -/
  required : ∀ d, catalog.definition before.type = some d → ∀ key,
    before.config.unset key = true → (∃ field ∈ d.requiredFields, field.key = key) →
      after.config.get? key =
        settled before.type d.requiredFields key (before.config.get? key)
  /-- No entry is removed. -/
  kept : ∀ key, (before.config.get? key).isSome = true → (after.config.get? key).isSome = true

theorem settles_completeNode (catalog : NodeCatalog) (node : Node) :
    Settles catalog node (completeNode catalog node).1 := by
  cases found : catalog.definition node.type with
  | none =>
    have same : (completeNode catalog node).1 = node := by simp only [completeNode, found]
    rw [same]
    exact {
      id := rfl
      type := rfl
      position := rfl
      unknown := fun _ => rfl
      others := fun _ _ _ _ => rfl
      required := fun d known => absurd (found.symm.trans known) (by simp)
      kept := fun _ => id }
  | some d =>
    have filled : (completeNode catalog node).1 =
        { node with config := (fill node.id node.type d.requiredFields node.config).1 } := by
      simp only [completeNode, found]
    rw [filled]
    exact {
      id := rfl
      type := rfl
      position := rfl
      unknown := fun unknown => absurd (found.symm.trans unknown) (by simp)
      others := by
        intro d' known key other
        obtain rfl : d = d' := Option.some.inj (found.symm.trans known)
        rw [get?_fill, entry, if_neg]
        simpa using other
      required := by
        intro d' known key unset required
        obtain rfl : d = d' := Option.some.inj (found.symm.trans known)
        rw [get?_fill, entry, if_pos]
        simpa using ⟨unset, required⟩
      kept := fun _ => isSome_get?_fill }

/-- A node is reported as unknown once, if its type is unknown. -/
theorem filter_unknown_completeNode (catalog : NodeCatalog) (node : Node) :
    ((completeNode catalog node).2.filter fun i => i.kind == .unknownNodeType) =
      if (catalog.definition node.type).isNone then
        [.ofNode .unknownNodeType node.id s!"Unknown node type '{node.type}'"]
      else [] := by
  unfold completeNode
  cases found : catalog.definition node.type with
  | none => rfl
  | some d =>
    rw [if_neg (by simp), List.filter_eq_nil_iff]
    intro issue mem
    obtain ⟨field, -, ⟨value, -, rfl⟩ | ⟨-, rfl⟩⟩ := mem_fill mem
    · simp [filled]
    · simp [missing]

/-- The reports of unknown types, each about a node of such a type. -/
theorem filter_unknown_ofNodes (catalog : NodeCatalog) (nodes : List Node) :
    ((ofNodes catalog nodes).issues.filter fun i => i.kind == .unknownNodeType) =
      (nodes.filter fun n => (catalog.definition n.type).isNone).map fun n =>
        .ofNode .unknownNodeType n.id s!"Unknown node type '{n.type}'" := by
  induction nodes with
  | nil => rfl
  | cons node nodes ih =>
    have rest :
        ((ofNodes catalog nodes).issues.filter fun i => i.kind == .unknownNodeType) = _ := ih
    rw [ofNodes] at rest ⊢
    rw [List.flatMap_cons, List.filter_append, rest, filter_unknown_completeNode, List.filter_cons]
    split
    · rfl
    · rfl

/-- **Completion settles every node** by itself, in its place. Of the nodes of unknown type each
is reported once, and no other; what was completed stays as it is when it is completed again. -/
theorem settles_ofNodes (catalog : NodeCatalog) (nodes : List Node) :
    let completed := ofNodes catalog nodes
    completed.nodes.length = nodes.length ∧
      List.Forall₂ (Settles catalog) nodes completed.nodes ∧
      (completed.issues.filter fun i => i.kind == .unknownNodeType) =
        ((nodes.filter fun n => (catalog.definition n.type).isNone).map fun n =>
          .ofNode .unknownNodeType n.id s!"Unknown node type '{n.type}'") ∧
      (ofNodes catalog completed.nodes).nodes = completed.nodes := by
  intro completed
  refine ⟨List.length_map _, ?_, filter_unknown_ofNodes catalog nodes, ofNodes_nodes catalog nodes⟩
  show List.Forall₂ (Settles catalog) nodes (nodes.map fun node => (completeNode catalog node).1)
  rw [List.forall₂_map_right_iff, List.forall₂_same]
  exact fun node _ => settles_completeNode catalog node

end Completion

end Dataflow
