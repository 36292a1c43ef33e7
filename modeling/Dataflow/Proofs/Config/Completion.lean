import Dataflow.Config.Completion

/-! Which required fields completion leaves unset.

Completion goes through the fields of a node in order and sees what it filled before.
`Lacks` says the same of the configuration that it starts from: a field stays unset just
if neither the defaults of the type nor the field itself give it a value, and no earlier
field of the same key gives it one other than the empty text. What is unset after all fields
was unset for each of them, so that completing a node again reports nothing new
(`sublist_completeNode`). -/
namespace Dataflow

namespace Config

/-- Setting an entry to the empty text is no better than not setting it. -/
theorem unset_insert (config : Config) (key other : String) (value : ConfigValue) :
    unset (Entries.insert key value config) other = true ↔
      if other = key then value = .string "" else unset config other = true := by
  unfold unset
  rw [Entries.get?_insert]
  by_cases eq : other = key
  · rw [if_pos eq, if_pos eq]
    cases value <;> simp
  · rw [if_neg eq, if_neg eq]

end Config

namespace Completion

/-- Whether some of the fields stays unset. -/
def Lacks (type : String) (fields : List ConfigField) (config : Config) : Prop :=
  ∃ earlier field later, fields = earlier ++ field :: later ∧ config.unset field.key = true ∧
    Defaults.value type field.key = none ∧ field.default = none ∧
    ∀ other ∈ earlier, other.key = field.key →
      other.default = none ∨ other.default = some (.string "")

section
variable {type : String} {field : ConfigField} {fields : List ConfigField} {config : Config}

theorem lacks_nil : ¬ Lacks type [] config := by
  intro lacks
  obtain ⟨earlier, field, later, split, -⟩ := lacks
  simp at split

theorem default?_eq_none_iff : default? type field = none ↔
    Defaults.value type field.key = none ∧ field.default = none := by
  simp [default?]

/-- A field that is unset and has no default stays unset. -/
theorem lacks_of_default?_eq_none (unset : config.unset field.key = true)
    (none : default? type field = none) : Lacks type (field :: fields) config := by
  obtain ⟨table, own⟩ := default?_eq_none_iff.mp none
  exact ⟨[], field, fields, rfl, unset, table, own, by simp⟩

/-- A field that is set already makes no difference. -/
theorem lacks_cons_of_set (set : ¬ config.unset field.key = true) :
    Lacks type (field :: fields) config ↔ Lacks type fields config := by
  constructor
  · intro lacks
    obtain ⟨earlier, f, later, split, unset, table, own, before⟩ := lacks
    cases earlier with
    | nil =>
      obtain ⟨rfl, -⟩ := List.cons.inj split
      exact absurd unset set
    | cons other earlier =>
      obtain ⟨-, rfl⟩ := List.cons.inj split
      exact ⟨earlier, f, later, rfl, unset, table, own, (List.forall_mem_cons.mp before).2⟩
  · intro lacks
    obtain ⟨earlier, f, later, rfl, unset, table, own, before⟩ := lacks
    refine ⟨field :: earlier, f, later, rfl, unset, table, own, ?_⟩
    refine List.forall_mem_cons.mpr ⟨fun same => ?_, before⟩
    exact absurd (same ▸ unset) set

/-- Filling a field helps the later ones of the same key, unless with the empty text. -/
theorem lacks_cons_of_filled {value : ConfigValue} (unset : config.unset field.key = true)
    (some : default? type field = some value) : Lacks type (field :: fields) config ↔
      Lacks type fields (Entries.insert field.key value config) := by
  constructor
  · intro lacks
    obtain ⟨earlier, f, later, split, unset_f, table, own, before⟩ := lacks
    cases earlier with
    | nil =>
      obtain ⟨rfl, -⟩ := List.cons.inj split
      rw [default?_eq_none_iff.mpr ⟨table, own⟩] at some
      exact absurd some (by simp)
    | cons other earlier =>
      obtain ⟨rfl, rfl⟩ := List.cons.inj split
      rw [List.forall_mem_cons] at before
      refine ⟨earlier, f, later, rfl, ?_, table, own, before.2⟩
      rw [Config.unset_insert]
      split
      · next same =>
        rw [default?, ← same, table, Option.none_or] at some
        have empty := before.1 same.symm
        simpa [some] using empty
      · exact unset_f
  · intro lacks
    obtain ⟨earlier, f, later, rfl, unset_f, table, own, before⟩ := lacks
    rw [Config.unset_insert] at unset_f
    refine ⟨field :: earlier, f, later, rfl, ?_, table, own, ?_⟩
    · split at unset_f
      · next same => exact same ▸ unset
      · exact unset_f
    · refine List.forall_mem_cons.mpr ⟨fun same => .inr ?_, before⟩
      rw [if_pos same.symm] at unset_f
      rw [default?, same, table, Option.none_or] at some
      rw [some, unset_f]

/-- Whether a field stays unset is a matter of what is unset before. -/
theorem Lacks.mono {before : Config} (lacks : Lacks type fields config)
    (unset : ∀ key, config.unset key = true → before.unset key = true) :
    Lacks type fields before := by
  obtain ⟨earlier, field, later, split, unset_field, no_default⟩ := lacks
  exact ⟨earlier, field, later, split, unset _ unset_field, no_default⟩

end

/-- **Filling leaves an entry unset** if it was unset, and none of its fields has a default but
the empty text. -/
theorem unset_fill_iff (nodeId type : String) (fields : List ConfigField) (config : Config)
    (key : String) : (fill nodeId type fields config).1.unset key = true ↔
      config.unset key = true ∧ ∀ field ∈ fields, field.key = key →
        ∀ value, default? type field = some value → value = .string "" := by
  fun_induction fill nodeId type fields config with
  | case1 config => simp
  | case2 field fields config unset value some config' issues eq ih =>
    rw [eq, Config.unset_insert] at ih
    rw [ih, List.forall_mem_cons, some]
    by_cases same : key = field.key
    · subst same
      simp [unset]
    · simp [same, Ne.symm same]
  | case3 field fields config unset none config' issues eq ih =>
    rw [eq] at ih
    simp [ih, none]
  | case4 field fields config set ih =>
    rw [ih, List.forall_mem_cons]
    refine and_congr_right fun unset => (and_iff_right fun same => ?_).symm
    exact absurd (same ▸ unset) set

/-! ### Filling again -/

section
variable {nodeId type : String} {field : ConfigField} {fields : List ConfigField}
  {config before after before' after' : Config}

theorem issues_fill_set (set : ¬ config.unset field.key = true) :
    (fill nodeId type (field :: fields) config).2 = (fill nodeId type fields config).2 := by
  rw [fill, if_neg set]

theorem issues_fill_filled {value : ConfigValue} (unset : config.unset field.key = true)
    (some : default? type field = some value) :
    (fill nodeId type (field :: fields) config).2 = filled nodeId field value ::
      (fill nodeId type fields (Entries.insert field.key value config)).2 := by
  rw [fill, if_pos unset, some]

theorem issues_fill_missing (unset : config.unset field.key = true)
    (none : default? type field = none) : (fill nodeId type (field :: fields) config).2 =
      missing nodeId field :: (fill nodeId type fields config).2 := by
  rw [fill, if_pos unset, none]

/-- A configuration that fields have been through: what is still unset was unset before, and
none of its fields has a default but the empty text. -/
def Passed (type : String) (fields : List ConfigField) (before after : Config) : Prop :=
  ∀ key, after.unset key = true → before.unset key = true ∧ ∀ field ∈ fields, field.key = key →
    ∀ value, default? type field = some value → value = .string ""

/-- It stays so if what is unset then was unset in both. -/
theorem Passed.tail (h : Passed type (field :: fields) before after)
    (still : ∀ key, after'.unset key = true → after.unset key = true)
    (also : ∀ key, after'.unset key = true → before.unset key = true → before'.unset key = true) :
    Passed type fields before' after' := by
  intro key unset
  obtain ⟨unset_before, defaults⟩ := h key (still key unset)
  exact ⟨also key unset unset_before, (List.forall_mem_cons.mp defaults).2⟩

/-- Filling a configuration that the fields have been through reports nothing new. -/
theorem sublist_fill (h : Passed type fields before after) :
    (fill nodeId type fields after).2.Sublist (fill nodeId type fields before).2 := by
  induction fields generalizing before after with
  | nil => exact .slnil
  | cons field fields ih =>
    by_cases unset : after.unset field.key = true
    · obtain ⟨unset_before, defaults⟩ := h field.key unset
      cases found : default? type field with
      | none =>
        rw [issues_fill_missing unset found, issues_fill_missing unset_before found]
        exact (ih (h.tail (fun _ => id) fun _ _ => id)).cons_cons _
      | some value =>
        -- The default is the empty text, and the entry stays unset on both sides.
        obtain rfl := defaults field (List.mem_cons_self ..) rfl value found
        rw [issues_fill_filled unset found, issues_fill_filled unset_before found]
        refine (ih (h.tail (fun key => ?_) fun key => ?_)).cons_cons _
        · rw [Config.unset_insert]
          split
          · next same => exact fun _ => same ▸ unset
          · exact id
        · rw [Config.unset_insert, Config.unset_insert]
          split
          · exact fun empty _ => empty
          · exact fun _ => id
    · rw [issues_fill_set unset]
      by_cases unset_before : before.unset field.key = true
      · cases found : default? type field with
        | none =>
          rw [issues_fill_missing unset_before found]
          exact (ih (h.tail (fun _ => id) fun _ _ => id)).cons _
        | some value =>
          rw [issues_fill_filled unset_before found]
          refine (ih (h.tail (fun _ => id) fun key unset_key before_key => ?_)).cons _
          have other : key ≠ field.key := fun same => unset (same ▸ unset_key)
          rw [Config.unset_insert, if_neg other]
          exact before_key
      · rw [issues_fill_set unset_before]
        exact ih (h.tail (fun _ => id) fun _ _ => id)

end

section
variable {nodeId type : String} {field : ConfigField} {fields : List ConfigField} {config : Config}

/-- Filling changes nothing where each default of an unset entry stands there already. -/
theorem fill_eq_self (stands : ∀ field ∈ fields, config.unset field.key = true →
      ∀ value, default? type field = some value →
        Entries.insert field.key value config = config) :
    (fill nodeId type fields config).1 = config := by
  fun_induction fill nodeId type fields config with
  | case1 config => rfl
  | case2 field fields config unset value some config' issues eq ih =>
    rw [List.forall_mem_cons] at stands
    rw [stands.1 unset value some] at eq ih
    rw [eq] at ih
    exact ih stands.2
  | case3 field fields config unset none config' issues eq ih =>
    rw [eq] at ih
    exact ih (List.forall_mem_cons.mp stands).2
  | case4 field fields config set ih => exact ih (List.forall_mem_cons.mp stands).2

/-- What stands under a key stays there when no field of the key has another default. -/
theorem insert_fill_eq_self {key : String} {value : ConfigValue}
    (stands : Entries.insert key value config = config)
    (only : ∀ field ∈ fields, field.key = key → ∀ v, default? type field = some v → v = value) :
    Entries.insert key value (fill nodeId type fields config).1 =
      (fill nodeId type fields config).1 := by
  fun_induction fill nodeId type fields config with
  | case1 config => exact stands
  | case2 field fields config unset v some config' issues eq ih =>
    rw [eq] at ih
    rw [List.forall_mem_cons] at only
    refine ih ?_ only.2
    by_cases same : field.key = key
    · obtain rfl := only.1 same v some
      rw [same, Entries.insert_insert_self]
    · exact Entries.insert_insert_eq_self (Ne.symm same) v stands
  | case3 field fields config unset none config' issues eq ih =>
    rw [eq] at ih
    exact ih stands (List.forall_mem_cons.mp only).2
  | case4 field fields config set ih => exact ih stands (List.forall_mem_cons.mp only).2

/-- A field that is unset after filling has had its default written, if it has one: the empty
text. -/
theorem insert_default_fill (mem : field ∈ fields)
    (unset : (fill nodeId type fields config).1.unset field.key = true) {value : ConfigValue}
    (some : default? type field = some value) :
    Entries.insert field.key value (fill nodeId type fields config).1 =
      (fill nodeId type fields config).1 := by
  -- Other fields of the key have no other default, or it would be set.
  have empty := ((unset_fill_iff nodeId type fields config field.key).mp unset).2
  have only : ∀ other ∈ fields, other.key = field.key →
      ∀ v, default? type other = .some v → v = value := by
    intro other other_mem same v found
    rw [empty other other_mem same v found, empty field mem rfl value some]
  clear empty
  fun_induction fill nodeId type fields config with
  | case1 config => cases mem
  | case2 head fields config unset_head v found config' issues eq ih =>
    rw [eq] at ih
    rw [List.forall_mem_cons] at only
    rcases List.mem_cons.mp mem with rfl | mem
    · obtain rfl := only.1 rfl v found
      have stands := Entries.insert_insert_self field.key v config
      have stays : _ = (fill nodeId type fields _).1 := insert_fill_eq_self stands only.2
      rwa [eq] at stays
    · exact ih mem unset only.2
  | case3 head fields config unset_head none config' issues eq ih =>
    rw [eq] at ih
    rcases List.mem_cons.mp mem with rfl | mem
    · rw [none] at some
      cases some
    · exact ih mem unset (List.forall_mem_cons.mp only).2
  | case4 head fields config set ih =>
    rcases List.mem_cons.mp mem with rfl | mem
    · exact absurd ((unset_fill_iff nodeId type fields config _).mp unset).1 set
    · exact ih mem unset (List.forall_mem_cons.mp only).2

/-- Filling again changes nothing. -/
theorem fill_fill : (fill nodeId type fields (fill nodeId type fields config).1).1 =
    (fill nodeId type fields config).1 :=
  fill_eq_self fun _ mem unset _ some => insert_default_fill mem unset some

end

/-- **Completing a node again changes nothing.** -/
theorem completeNode_completeNode (catalog : NodeCatalog) (node : Node) :
    (completeNode catalog (completeNode catalog node).1).1 = (completeNode catalog node).1 := by
  cases found : catalog.definition node.type with
  | none => simp only [completeNode, found]
  | some d => simp only [completeNode, found, fill_fill]

/-- **Completing a node again reports nothing new.** -/
theorem sublist_completeNode (catalog : NodeCatalog) (node : Node) :
    (completeNode catalog (completeNode catalog node).1).2.Sublist
      (completeNode catalog node).2 := by
  cases found : catalog.definition node.type with
  | none => simp [completeNode, found]
  | some d =>
    simp only [completeNode, found]
    exact sublist_fill fun key unset => (unset_fill_iff ..).mp unset

section
variable (catalog : NodeCatalog) (nodes : List Node)

/-- All nodes stay as they are. -/
theorem ofNodes_nodes : (ofNodes catalog (ofNodes catalog nodes).nodes).nodes =
    (ofNodes catalog nodes).nodes := by
  simp only [ofNodes, List.map_map]
  exact List.map_congr_left fun node _ => completeNode_completeNode catalog node

/-- Of all nodes, nothing new is reported. -/
theorem sublist_ofNodes : (ofNodes catalog (ofNodes catalog nodes).nodes).issues.Sublist
    (ofNodes catalog nodes).issues := by
  simp only [ofNodes, List.flatMap_map]
  induction nodes with
  | nil => exact .slnil
  | cons node nodes ih =>
    rw [List.flatMap_cons, List.flatMap_cons]
    exact (sublist_completeNode catalog node).append ih

end

/-! ### What is reported -/

theorem isBlocking_filled (nodeId : String) (field : ConfigField) (value : ConfigValue) :
    (filled nodeId field value).isBlocking = false := rfl

theorem isBlocking_missing (nodeId : String) (field : ConfigField) :
    (missing nodeId field).isBlocking = true := rfl

/-- Filling fields reports a blocking issue just if a field stays unset. -/
theorem any_isBlocking_fill (nodeId type : String) (fields : List ConfigField) (config : Config) :
    (fill nodeId type fields config).2.any Issue.isBlocking = true ↔ Lacks type fields config := by
  fun_induction fill nodeId type fields config with
  | case1 config => simpa using lacks_nil
  | case2 field fields config unset value some config' issues eq ih =>
    rw [lacks_cons_of_filled unset some, ← ih, eq]
    simp [isBlocking_filled]
  | case3 field fields config unset none config' issues eq ih =>
    simpa [isBlocking_missing] using lacks_of_default?_eq_none unset none
  | case4 field fields config set ih => rw [lacks_cons_of_set set, ih]

/-- Completing a node reports a blocking issue just if its type is unknown or a required
field stays unset. -/
theorem any_isBlocking_completeNode (catalog : NodeCatalog) (node : Node) :
    (completeNode catalog node).2.any Issue.isBlocking = true ↔
      catalog.definition node.type = none ∨
        ∃ d, catalog.definition node.type = some d ∧
          Lacks node.type d.requiredFields node.config := by
  unfold completeNode
  split
  · next none => simp [none, IssueKind.severity, IssueKind.autoFixable]
  · next d some =>
    simpa [some] using any_isBlocking_fill node.id node.type d.requiredFields node.config

/-- An issue of filling fields is of one of the fields: it was filled, or it has no default. -/
theorem mem_fill {nodeId type : String} {fields : List ConfigField} {config : Config}
    {issue : Issue} (mem : issue ∈ (fill nodeId type fields config).2) :
    ∃ field ∈ fields,
      (∃ value, default? type field = some value ∧ issue = filled nodeId field value) ∨
        (default? type field = none ∧ issue = missing nodeId field) := by
  fun_induction fill nodeId type fields config with
  | case1 config => simp at mem
  | case2 field fields config unset value some config' issues eq ih =>
    rw [eq] at ih
    rcases List.mem_cons.mp mem with rfl | mem
    · exact ⟨field, List.mem_cons_self .., .inl ⟨value, some, rfl⟩⟩
    · obtain ⟨other, other_mem, reported⟩ := ih mem
      exact ⟨other, List.mem_cons_of_mem _ other_mem, reported⟩
  | case3 field fields config unset none config' issues eq ih =>
    rw [eq] at ih
    rcases List.mem_cons.mp mem with rfl | mem
    · exact ⟨field, List.mem_cons_self .., .inr ⟨none, rfl⟩⟩
    · obtain ⟨other, other_mem, reported⟩ := ih mem
      exact ⟨other, List.mem_cons_of_mem _ other_mem, reported⟩
  | case4 field fields config set ih =>
    obtain ⟨other, other_mem, reported⟩ := ih mem
    exact ⟨other, List.mem_cons_of_mem _ other_mem, reported⟩

/-- What completion reports is about the node. -/
theorem eq_ofNode_of_mem_completeNode {catalog : NodeCatalog} {node : Node} {issue : Issue}
    (mem : issue ∈ (completeNode catalog node).2) :
    issue = .ofNode issue.kind node.id issue.message := by
  unfold completeNode at mem
  split at mem
  · exact List.mem_singleton.mp mem ▸ rfl
  · obtain ⟨field, -, ⟨value, -, rfl⟩ | ⟨-, rfl⟩⟩ := mem_fill mem
    · rfl
    · rfl

theorem nodeId_of_mem_completeNode {catalog : NodeCatalog} {node : Node} {issue : Issue}
    (mem : issue ∈ (completeNode catalog node).2) : issue.nodeId = some node.id :=
  congrArg Issue.nodeId (eq_ofNode_of_mem_completeNode mem)

/-! ### Completed nodes -/

/-- Completion changes neither the id of a node nor its type. -/
theorem completeNode_id (catalog : NodeCatalog) (node : Node) :
    (completeNode catalog node).1.id = node.id := by
  unfold completeNode; split <;> rfl

theorem completeNode_type (catalog : NodeCatalog) (node : Node) :
    (completeNode catalog node).1.type = node.type := by
  unfold completeNode; split <;> rfl

/-- The first node of an id is completed like any other. -/
theorem find?_nodes (catalog : NodeCatalog) (nodes : List Node) (id : String) :
    ((ofNodes catalog nodes).nodes.find? fun n => n.id == id) =
      (nodes.find? fun n => n.id == id).map fun n => (completeNode catalog n).1 := by
  simp only [ofNodes, List.find?_map, Function.comp_def, completeNode_id]

end Completion

end Dataflow
