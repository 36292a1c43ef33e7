import Dataflow.Catalog
import Dataflow.Proofs.Entries

/-! Which definition a catalog has of a type.

Definitions have been inserted into a catalog one after the other, some of them taken and others
refused, and it has the first one of each type (`Holds`). That is so of the empty catalog, and every
insertion keeps it, whatever comes of it (`Holds.insert`): a definition is taken if its type is new
(`Holds.take`), and otherwise it is refused and the catalog stays as it is (`Holds.refuse`). So the
definitions of a list make up a catalog just if their types are different, and otherwise the first
one that repeats a type is named (`builds_ofDefinitions`). -/
namespace Dataflow.Catalog

/-- The types that are defined. -/
def types (c : Catalog) : List String := c.definitions.map (·.type)

/-- The catalog after some definitions were inserted, whatever came of each. -/
def after (c : Catalog) (inserted : List NodeDefinition) : Catalog :=
  inserted.foldl (fun c d => (c.insert d).1) c

section
variable {c : Catalog} {d : NodeDefinition}

theorem mem_types_iff {type : String} : type ∈ c.types ↔ (c.definition type).isSome = true := by
  simp [types, definition, List.find?_isSome]

theorem insert_of_mem (known : d.type ∈ c.types) : c.insert d = (c, .error ⟨d.type⟩) :=
  dif_pos known

theorem insert_of_not_mem (new : d.type ∉ c.types) :
    ∃ c', c.insert d = (c', .ok ()) ∧ c'.definitions = d :: c.definitions :=
  ⟨_, dif_neg new, rfl⟩

end

/-- Of the definitions that were inserted, the catalog has the first one of each type. -/
def Holds (c : Catalog) (inserted : List NodeDefinition) : Prop :=
  ∀ type, c.definition type = inserted.find? fun d => d.type == type

theorem holds_definitions (c : Catalog) : c.Holds c.definitions := fun _ => rfl

namespace Holds

variable {c : Catalog} {inserted : List NodeDefinition} {d : NodeDefinition}

/-- The types that are defined are those that were inserted. -/
theorem mem_types_iff (h : c.Holds inserted) {type : String} :
    type ∈ c.types ↔ type ∈ inserted.map (·.type) := by
  rw [Catalog.mem_types_iff, h type, List.find?_isSome]
  simp

/-- A definition is refused just if its type was inserted before. -/
theorem outcome (h : c.Holds inserted) : (c.insert d).2 =
    if d.type ∈ inserted.map (·.type) then .error ⟨d.type⟩ else .ok () := by
  by_cases known : d.type ∈ c.types
  · rw [insert_of_mem known, if_pos (h.mem_types_iff.mp known)]
  · obtain ⟨c', taken, -⟩ := insert_of_not_mem known
    rw [taken, if_neg (mt h.mem_types_iff.mpr known)]

/-- A type that is new is defined from now on, and the others are as before. -/
theorem take (h : c.Holds inserted) (new : d.type ∉ inserted.map (·.type)) {c' : Catalog}
    (taken : c'.definitions = d :: c.definitions) : c'.Holds (inserted ++ [d]) := by
  intro type
  rw [definition, taken, List.find?_append, ← h type]
  by_cases same : d.type = type
  · have undefined : c.definition type = none := by
      rw [← Option.not_isSome_iff_eq_none, ← Catalog.mem_types_iff, h.mem_types_iff, ← same]
      exact new
    simp [same, undefined]
  · simp [same, definition, List.find?_cons_of_neg]

/-- A definition of a type that was inserted before makes no difference. -/
theorem refuse (h : c.Holds inserted) (known : d.type ∈ inserted.map (·.type)) :
    c.Holds (inserted ++ [d]) := by
  intro type
  rw [h type, List.find?_append]
  by_cases same : d.type = type
  · have found : (inserted.find? fun d => d.type == type).isSome = true := by
      rw [← h type, ← Catalog.mem_types_iff, h.mem_types_iff, ← same]
      exact known
    rw [Option.or_of_isSome found]
  · simp [same]

theorem insert (h : c.Holds inserted) (d : NodeDefinition) :
    (c.insert d).1.Holds (inserted ++ [d]) := by
  by_cases known : d.type ∈ c.types
  · rw [insert_of_mem known]
    exact h.refuse (h.mem_types_iff.mp known)
  · obtain ⟨c', taken, definitions⟩ := insert_of_not_mem known
    rw [taken]
    exact h.take (mt h.mem_types_iff.mpr known) definitions

/-- After any insertions, the first one of each type is what the catalog has. -/
theorem after (h : c.Holds inserted) (more : List NodeDefinition) :
    (c.after more).Holds (inserted ++ more) := by
  induction more generalizing c inserted with
  | nil =>
    rw [List.append_nil]
    exact h
  | cons d more ih =>
    rw [List.append_cons]
    exact ih (h.insert d)

/-- Inserting definitions in order ends well, or at the first one that repeats a type. -/
theorem insertAll (h : c.Holds inserted) (nodup : (inserted.map (·.type)).Nodup)
    (ds : List NodeDefinition) :
    (∃ c', c.insertAll ds = (c', .ok ()) ∧ ((inserted ++ ds).map (·.type)).Nodup ∧
      c'.Holds (inserted ++ ds)) ∨
    ∃ before d rest c', ds = before ++ d :: rest ∧ ((inserted ++ before).map (·.type)).Nodup ∧
      d.type ∈ (inserted ++ before).map (·.type) ∧ c.insertAll ds = (c', .error ⟨d.type⟩) := by
  induction ds generalizing c inserted with
  | nil => exact .inl ⟨c, rfl, by simpa using nodup, by simpa using h⟩
  | cons d ds ih =>
    by_cases known : d.type ∈ c.types
    · have repeated := h.mem_types_iff.mp known
      have refused : c.insertAll (d :: ds) = (c, .error ⟨d.type⟩) := by
        rw [Catalog.insertAll, insert_of_mem known]
      exact .inr ⟨[], d, ds, c, rfl, by simpa using nodup, by simpa using repeated, refused⟩
    · obtain ⟨c', taken, definitions⟩ := insert_of_not_mem known
      have new := mt h.mem_types_iff.mpr known
      have nodup' : ((inserted ++ [d]).map (·.type)).Nodup := by
        rw [List.map_append, List.nodup_append']
        refine ⟨nodup, List.nodup_singleton _, ?_⟩
        simpa using new
      have goes_on : c.insertAll (d :: ds) = c'.insertAll ds := by
        rw [Catalog.insertAll, taken]
      rw [goes_on]
      rcases ih (h.take new definitions) nodup' with ⟨last, built, all, holds⟩ |
        ⟨before, again, rest, stopped, rfl, firsts, repeated, refused⟩
      · exact .inl ⟨last, built, by simpa using all, by simpa using holds⟩
      · exact .inr ⟨d :: before, again, rest, stopped, rfl, by simpa using firsts,
          by simpa using repeated, refused⟩

end Holds

/-! ### Main result -/

/-- What comes of building a catalog of definitions. -/
structure Builds (ds : List NodeDefinition) (built : Except DuplicateType Catalog) : Prop where
  /-- It is built just if the types are different. -/
  isOk_iff : (∃ c, built = .ok c) ↔ (ds.map (·.type)).Nodup
  /-- Of each type it then has the one definition that there is, or none if there is none. -/
  definition_iff : ∀ c, built = .ok c →
    ∀ type d, c.definition type = some d ↔ d ∈ ds ∧ d.type = type
  /-- Otherwise the first one to repeat a type is named. -/
  repeated : ∀ e, built = .error e → ∃ before d rest, ds = before ++ d :: rest ∧
    (before.map (·.type)).Nodup ∧ d.type ∈ before.map (·.type) ∧ e = ⟨d.type⟩

/-- How a catalog stands to the definitions that were inserted into it. -/
structure Answers (c : Catalog) (inserted : List NodeDefinition) : Prop where
  /-- It has the first one of each type. -/
  definition : ∀ type, c.definition type = inserted.find? fun d => d.type == type
  /-- Another one is taken just if its type is new, -/
  isOk_iff : ∀ d, (c.insert d).2 = .ok () ↔ d.type ∉ inserted.map (·.type)
  /-- and refused, with its type, just if that was inserted before; -/
  isError_iff : ∀ d e, (c.insert d).2 = .error e ↔ d.type ∈ inserted.map (·.type) ∧ e = ⟨d.type⟩
  /-- then everything is found as before. -/
  unchanged : ∀ d e, (c.insert d).2 = .error e →
    ∀ type, (c.insert d).1.definition type = c.definition type

theorem builds_ofDefinitions (ds : List NodeDefinition) : Builds ds (ofDefinitions ds) := by
  rcases (holds_definitions empty).insertAll .nil ds with
    ⟨c, inserted, nodup, holds⟩ | ⟨before, d, rest, stopped, rfl, nodup, known, refused⟩
  · have built : ofDefinitions ds = .ok c := by rw [ofDefinitions, inserted]
    rw [built]
    refine ⟨iff_of_true ⟨c, rfl⟩ nodup, fun _ same type d => ?_, fun e none => by cases none⟩
    cases same
    rw [holds type]
    exact Entries.find?_key_eq_some_iff nodup
  · have failed : ofDefinitions (before ++ d :: rest) = .error ⟨d.type⟩ := by
      rw [ofDefinitions, refused]
    rw [failed]
    refine ⟨iff_of_false (by simp) ?_, fun c none => (by cases none), fun e same => ?_⟩
    · rw [List.map_append, List.map_cons, List.nodup_middle, List.nodup_cons, List.mem_append]
      exact fun distinct => distinct.1 (.inl known)
    · cases same
      exact ⟨before, d, rest, rfl, nodup, known, rfl⟩

theorem Holds.answers {c : Catalog} {inserted : List NodeDefinition} (h : c.Holds inserted) :
    c.Answers inserted where
  definition := h
  isOk_iff d := by
    rw [h.outcome]
    split <;> simp [*]
  isError_iff d e := by
    rw [h.outcome]
    split <;> simp [*, eq_comm]
  unchanged d e refused type := by
    rw [h.outcome] at refused
    split at refused
    · next known => rw [insert_of_mem (h.mem_types_iff.mpr known)]
    · cases refused

/-- **The first definition of each type counts.** A list of definitions makes up a catalog just if
their types are different; otherwise the first repetition is named. However many definitions are
inserted into a catalog, taken or refused, it has the first one of each type, and refuses those of
types that were inserted before without any other effect. -/
theorem first_of_offers :
    (∀ ds, Builds ds (ofDefinitions ds)) ∧
      ∀ (c : Catalog) (ds : List NodeDefinition), (c.after ds).Answers (c.definitions ++ ds) :=
  ⟨builds_ofDefinitions, fun c ds => ((holds_definitions c).after ds).answers⟩

/-- A second definition of a type, with a port that the first one does not have, is refused, and
refused again after another type was defined. -/
theorem first_of_offers_refused :
    let plain : NodeDefinition := .empty "note"
    let other : NodeDefinition := .empty "viewer"
    let again := plain.addInput ⟨"in", "text", true⟩
    let c := empty.after [plain, again, other]
    (c.insert again).2 = .error ⟨"note"⟩ ∧
      (c.insert again).1.definition "note" = c.definition "note" ∧
      c.definition "note" = some plain ∧ (c.insert (.empty "index")).2 = .ok () ∧
      ofDefinitions [plain, other, again] = .error ⟨"note"⟩ := by
  intro plain other again c
  obtain ⟨-, answers⟩ := first_of_offers
  have c_answers : c.Answers [plain, again, other] := answers empty [plain, again, other]
  have refused := (c_answers.isError_iff again ⟨"note"⟩).mpr ⟨by decide, rfl⟩
  exact ⟨refused, c_answers.unchanged again _ refused "note", c_answers.definition "note",
    (c_answers.isOk_iff _).mpr (by decide), rfl⟩

end Dataflow.Catalog
