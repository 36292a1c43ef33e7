import Dataflow.Config
import Dataflow.Proofs.Json.Document

/-! Configuration values are read back from what they are written as.

A value that a text yields has finite numbers, nests no deeper than the reader allows, and
its maps stand in order (`Stored`). The JSON of such a value fits in the same depth
(`Stored.fits`) and holds no `null`, so it is taken for the value itself
(`Stored.ofJson?_toJson`). -/
namespace Dataflow.ConfigValue

open Json (Codec)

/-- The values that a text can hold with `depth` lists and maps nested. -/
inductive Stored : Nat → ConfigValue → Prop
  | bool (depth : Nat) (b : Bool) : Stored depth (bool b)
  | number (depth : Nat) {x : Float} (finite : x.isFinite = true) : Stored depth (number x)
  | string (depth : Nat) (s : String) : Stored depth (string s)
  | list {depth : Nat} {items : List ConfigValue} (stored : ∀ v ∈ items, Stored depth v) :
      Stored (depth + 1) (list items)
  | map {depth : Nat} {entries : List (String × ConfigValue)}
      (ascending : Entries.Ascending entries) (stored : ∀ e ∈ entries, Stored depth e.2) :
      Stored (depth + 1) (map entries)

/-! ### From JSON -/

theorem of_ofItems? {items : List Json.Value} {vs : List ConfigValue}
    (h : ofItems? items = some vs) : ∀ v ∈ vs, ∃ json ∈ items, ofJson? json = some v := by
  induction items generalizing vs with
  | nil =>
    cases h
    exact List.forall_mem_nil _
  | cons json items ih =>
    obtain ⟨v, first, h⟩ := Option.bind_eq_some_iff.1 h
    obtain ⟨vs, others, h⟩ := Option.bind_eq_some_iff.1 h
    cases h
    refine List.forall_mem_cons.2 ⟨⟨json, List.mem_cons_self, first⟩, fun w mem => ?_⟩
    obtain ⟨json, mem, found⟩ := ih others w mem
    exact ⟨json, List.mem_cons_of_mem _ mem, found⟩

theorem of_ofMembers? {members : List (String × Json.Value)}
    {entries : List (String × ConfigValue)} (h : ofMembers? members = some entries) :
    ∀ e ∈ entries, ∃ m ∈ members, ofJson? m.2 = some e.2 := by
  induction members generalizing entries with
  | nil =>
    cases h
    exact List.forall_mem_nil _
  | cons m members ih =>
    obtain ⟨e, first, h⟩ := Option.bind_eq_some_iff.1 h
    obtain ⟨es, others, h⟩ := Option.bind_eq_some_iff.1 h
    cases h
    obtain ⟨key, json⟩ := m
    obtain ⟨v, value, rfl⟩ := Option.map_eq_some_iff.1 first
    refine List.forall_mem_cons.2 ⟨⟨(key, json), List.mem_cons_self, value⟩, fun f mem => ?_⟩
    obtain ⟨m, mem, found⟩ := ih others f mem
    exact ⟨m, List.mem_cons_of_mem _ mem, found⟩

/-- JSON that fits in a depth is taken for a value that is stored there. -/
theorem stored_of_fits {depth : Nat} {json : Json.Value} (fits : json.Fits depth)
    {v : ConfigValue} (h : ofJson? json = some v) : Stored depth v := by
  induction fits generalizing v with
  | null => cases h
  | bool =>
    cases h
    exact .bool _ _
  | number _ finite =>
    cases h
    exact .number _ finite
  | string =>
    cases h
    exact .string _ _
  | array _ ih =>
    obtain ⟨vs, items, rfl⟩ := Option.map_eq_some_iff.1 h
    refine .list fun v mem => ?_
    obtain ⟨json, mem, found⟩ := of_ofItems? items v mem
    exact ih json mem found
  | object _ ih =>
    obtain ⟨es, members, rfl⟩ := Option.map_eq_some_iff.1 h
    refine .map (Entries.ascending_ofList es) fun e mem => ?_
    obtain ⟨m, mem, found⟩ := of_ofMembers? members e (Entries.mem_ofList mem)
    exact ih m mem found

/-! ### To JSON -/

theorem itemsToJson_eq (items : List ConfigValue) : itemsToJson items = items.map toJson := by
  induction items with
  | nil => rfl
  | cons v items ih => rw [itemsToJson, ih, List.map_cons]

theorem entriesToJson_eq (entries : List (String × ConfigValue)) :
    entriesToJson entries = entries.map fun e => (e.1, e.2.toJson) := by
  induction entries with
  | nil => rfl
  | cons e entries ih =>
    obtain ⟨key, v⟩ := e
    rw [entriesToJson, ih, List.map_cons, entryToJson]

theorem ofItems?_map {items : List ConfigValue}
    (h : ∀ v ∈ items, ofJson? v.toJson = some v) : ofItems? (items.map toJson) = some items := by
  induction items with
  | nil => rfl
  | cons v items ih =>
    obtain ⟨first, others⟩ := List.forall_mem_cons.1 h
    rw [List.map_cons, ofItems?, first, ih others]
    rfl

theorem ofMembers?_map {entries : List (String × ConfigValue)}
    (h : ∀ e ∈ entries, ofJson? e.2.toJson = some e.2) :
    ofMembers? (entries.map fun e => (e.1, e.2.toJson)) = some entries := by
  induction entries with
  | nil => rfl
  | cons e entries ih =>
    obtain ⟨first, others⟩ := List.forall_mem_cons.1 h
    rw [List.map_cons, ofMembers?, ofMember?, first, ih others]
    rfl

theorem Stored.fits {depth : Nat} {v : ConfigValue} (h : Stored depth v) :
    v.toJson.Fits depth := by
  induction h with
  | bool => exact .bool _ _
  | number _ finite => exact .number _ finite
  | string => exact .string _ _
  | list _ ih =>
    rw [toJson, itemsToJson_eq]
    exact .array (List.forall_mem_map.2 ih)
  | map _ _ ih =>
    rw [toJson, entriesToJson_eq]
    exact .object (List.forall_mem_map.2 ih)

/-- The JSON of a stored value is taken for that value. -/
theorem Stored.ofJson?_toJson {depth : Nat} {v : ConfigValue} (h : Stored depth v) :
    ofJson? v.toJson = some v := by
  induction h with
  | bool | number | string => rfl
  | list _ ih =>
    rw [toJson, itemsToJson_eq, ofJson?, ofItems?_map ih]
    rfl
  | map ascending _ ih =>
    rw [toJson, entriesToJson_eq, ofJson?, ofMembers?_map ih, Option.map_some,
      Entries.ofList_of_ascending ascending]

/-! ### The codec -/

theorem stored_of_yields {depth : Nat} {v : ConfigValue} (yields : codec.Yields depth v) :
    Stored depth v := by
  obtain ⟨s, rest, h⟩ := yields
  obtain ⟨⟨json, _⟩, read, h⟩ := Json.bind_eq_ok.1 h
  dsimp only at h
  split at h <;> cases h
  next value => exact stored_of_fits (Json.fits_of_readValue read) value

theorem faithful_codec (depth : Nat) : codec.Faithful depth where
  finite yields := (stored_of_yields yields).fits.finite
  reads {v} yields legible tail ends := by
    have stored := stored_of_yields yields
    have read : Json.readValue depth ((codec.encode v).render ++ tail) = .ok (v.toJson, tail) :=
      Json.readValue_render stored.fits legible ends
    show (Json.readValue depth _ >>= _) = _
    rw [read]
    simp only [bind, Except.bind, stored.ofJson?_toJson]

theorem refusesNull_codec (depth : Nat) : codec.RefusesNull depth := by
  intro s r h
  obtain ⟨⟨json, _⟩, read, h⟩ := Json.bind_eq_ok.1 h
  unfold Json.readValue at read
  change Json.readWord _ ['u', 'l', 'l'] s = _ at read
  rw [Codec.value_of_readWord read] at h
  cases h

end Dataflow.ConfigValue
