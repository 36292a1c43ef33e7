import Dataflow.Json.Record
import Dataflow.Proofs.Json.Codec

/-! Records that read back what they have read and written.

A value in a record was read by its member's codec or stands for an absent member
(`Fields.Yields`), whether the record was an object or a list. Written as an object, it is
found again under its key, and a value that is not written is the one that stands for the
absent member (`complete_found`). So a record is faithful if its members are
(`Fields.Faithful`), one level up. -/
namespace Dataflow.Json

/-- A member of a record that is read back: what is not written is what an absent member
stands for, and an absent member stands for nothing that is written but cannot be read. -/
structure Field.Faithful {α : Type} (f : Field α) (depth : Nat) : Prop where
  codec : f.codec.Faithful depth
  absent_of_omitted {a : α} : f.omitted a = true → f.absent = some a
  yields_of_absent {a : α} : f.absent = some a → f.omitted a = false → f.codec.Yields depth a

namespace Field

variable {α : Type} {c : Codec α} {depth : Nat}

theorem faithful_required (key : String) (h : c.Faithful depth) :
    (required key c).Faithful depth := ⟨h, (nomatch ·), (nomatch ·)⟩

theorem faithful_withDefault (key : String) (h : c.Faithful depth) {value : α}
    (yields : c.Yields depth value) : (withDefault key c value).Faithful depth :=
  ⟨h, (nomatch ·), fun same _ => Option.some.inj same ▸ yields⟩

theorem faithful_optional (key : String) (h : c.Faithful depth)
    (refuses : c.RefusesNull depth) : (optional key c).Faithful depth where
  codec := h.option refuses
  absent_of_omitted {a} omitted := by
    cases a with
    | none => rfl
    | some a => cases omitted
  yields_of_absent same omitted := by
    cases same
    cases omitted

end Field

namespace Fields

variable {α ρ σ : Type}

def keys : {ρ σ : Type} → Fields ρ σ → List String
  | _, _, nil => []
  | _, _, cons head tail => head.key :: tail.keys

/-- Every value was read or stands for an absent member. -/
def Yields (depth : Nat) : {ρ σ : Type} → Fields ρ σ → ρ → Prop
  | _, _, nil, () => True
  | _, _, cons head tail, (a, others) =>
    (head.codec.Yields depth a ∨ head.absent = some a) ∧ tail.Yields depth others

/-- Every value that was found was read. -/
def Seen (depth : Nat) : {ρ σ : Type} → Fields ρ σ → σ → Prop
  | _, _, nil, () => True
  | _, _, cons head tail, (found, others) =>
    (∀ a ∈ found, head.codec.Yields depth a) ∧ tail.Seen depth others

/-- What is found in a written record. -/
def found : {ρ σ : Type} → Fields ρ σ → ρ → σ
  | _, _, nil, () => ()
  | _, _, cons head tail, (a, others) =>
    (if head.omitted a then none else some a, tail.found others)

/-- Members that are read back, under keys of their own. -/
def Faithful (depth : Nat) : {ρ σ : Type} → Fields ρ σ → Prop
  | _, _, nil => True
  | _, _, cons head tail => head.Faithful depth ∧ head.key ∉ tail.keys ∧ tail.Faithful depth

/-! ### What a record is read from -/

theorem seen_blank (depth : Nat) : {ρ σ : Type} → (fields : Fields ρ σ) →
    fields.Seen depth fields.blank
  | _, _, nil => trivial
  | _, _, cons _ tail => ⟨(nomatch ·, ·), tail.seen_blank depth⟩

theorem seen_readMember {key : String} {depth : Nat} {s rest : List Char} :
    {ρ σ : Type} → (fields : Fields ρ σ) → {found next : σ} → fields.Seen depth found →
      fields.readMember key depth found s = .ok (next, rest) → fields.Seen depth next
  | _, _, nil, (), (), _, _ => trivial
  | _, _, cons head tail, (found, others), (found', others'), seen, h => by
    unfold readMember at h
    split at h
    · split at h
      · cases h
      · obtain ⟨s, _, h⟩ := bind_eq_ok.1 h
        obtain ⟨⟨a, rest⟩, read, eq⟩ := bind_eq_ok.1 h
        cases eq
        refine ⟨fun b mem => ?_, seen.2⟩
        cases mem
        exact ⟨_, _, read⟩
    · obtain ⟨⟨others, rest⟩, read, eq⟩ := bind_eq_ok.1 h
      cases eq
      exact ⟨seen.1, tail.seen_readMember seen.2 read⟩

theorem yields_of_complete {depth : Nat} : {ρ σ : Type} → (fields : Fields ρ σ) →
    {found : σ} → {r : ρ} → fields.Seen depth found → fields.complete found = .ok r →
      fields.Yields depth r
  | _, _, nil, (), (), _, _ => trivial
  | _, _, cons head tail, (found, others), (a, values), seen, h => by
    unfold complete at h
    split at h
    · cases h
    · next value =>
      obtain ⟨values, rest, eq⟩ := bind_eq_ok.1 h
      cases eq
      refine ⟨?_, tail.yields_of_complete seen.2 rest⟩
      cases found with
      | none => exact .inr value
      | some b =>
        cases value
        exact .inl (seen.1 _ rfl)

theorem yields_of_readInOrder {expected : String} {depth : Nat} :
    {ρ σ : Type} → (fields : Fields ρ σ) → {index : Nat} → {s rest : List Char} → {r : ρ} →
      fields.readInOrder expected depth index s = .ok (r, rest) → fields.Yields depth r
  | _, _, nil, _, _, _, (), _ => trivial
  | _, _, cons head tail, index, s, rest, (a, values), h => by
    unfold readInOrder at h
    obtain ⟨place, _, h⟩ := bind_eq_ok.1 h
    cases place with
    | some s =>
      obtain ⟨⟨a, s⟩, read, h⟩ := bind_eq_ok.1 h
      obtain ⟨⟨values, rest⟩, others, eq⟩ := bind_eq_ok.1 h
      cases eq
      exact ⟨.inl ⟨_, _, read⟩, tail.yields_of_readInOrder others⟩
    | none =>
      dsimp only at h
      split at h
      · cases h
      · next value =>
        obtain ⟨⟨values, rest⟩, others, eq⟩ := bind_eq_ok.1 h
        cases eq
        exact ⟨.inr value, tail.yields_of_readInOrder others⟩

/-! ### What a record is written as -/

theorem key_of_mem_members : {ρ σ : Type} → (fields : Fields ρ σ) → {r : ρ} →
    {m : String × Value} → m ∈ fields.members r → m.1 ∈ fields.keys
  | _, _, nil, (), _, h => nomatch h
  | _, _, cons head tail, (a, values), m, h => by
    unfold members at h
    split at h
    · exact List.mem_cons_of_mem _ (tail.key_of_mem_members h)
    · obtain rfl | h := List.mem_cons.1 h
      · exact List.mem_cons_self
      · exact List.mem_cons_of_mem _ (tail.key_of_mem_members h)

theorem complete_found {depth : Nat} : {ρ σ : Type} → (fields : Fields ρ σ) →
    fields.Faithful depth → (r : ρ) → fields.complete (fields.found r) = .ok r
  | _, _, nil, _, () => rfl
  | _, _, cons head tail, h, (a, values) => by
    obtain ⟨faithful, _, others⟩ := h
    have rest := tail.complete_found others values
    have value : (if head.omitted a then none else some a).or head.absent = some a := by
      split
      · next omitted => exact faithful.absent_of_omitted omitted
      · rfl
    unfold complete found
    rw [value, rest]
    rfl

/-- A value that is written was read. -/
theorem yields_of_written {f : Field α} {depth : Nat} (faithful : f.Faithful depth) {a : α}
    (h : f.codec.Yields depth a ∨ f.absent = some a) (written : f.omitted a = false) :
    f.codec.Yields depth a :=
  h.elim id fun absent => faithful.yields_of_absent absent written

theorem finite_members {depth : Nat} : {ρ σ : Type} → (fields : Fields ρ σ) →
    fields.Faithful depth → {r : ρ} → fields.Yields depth r →
      ∀ m ∈ fields.members r, ∀ x ∈ m.2.numbers, x.isFinite = true
  | _, _, nil, _, (), _ => fun _ h => nomatch h
  | _, _, cons head tail, h, (a, values), yields => by
    obtain ⟨faithful, _, others⟩ := h
    obtain ⟨value, rest⟩ := yields
    unfold members
    split
    · exact tail.finite_members others rest
    · next written =>
      have yields := yields_of_written faithful value (Bool.not_eq_true _ ▸ written)
      exact List.forall_mem_cons.2
        ⟨faithful.codec.finite yields, tail.finite_members others rest⟩

/-- Reading a written record finds what was written. -/
theorem feeds_members {depth : Nat} : {ρ σ : Type} → (fields : Fields ρ σ) →
    fields.Faithful depth → {r : ρ} → fields.Yields depth r →
      (∀ m ∈ fields.members r, m.2.Legible) →
        Feeds (keyed fun key found s => fields.readMember key depth found s) fields.blank
          ((fields.members r).map renderMember) (fields.found r)
  | _, _, nil, _, (), _, _ => .nil
  | _, _, cons head tail, h, (a, values), yields, legible => by
    obtain ⟨faithful, fresh, others⟩ := h
    obtain ⟨value, rest⟩ := yields
    -- The members behind the first one pass by its place.
    have behind (legible : ∀ m ∈ tail.members values, m.2.Legible) (here : Option _) :
        Feeds (keyed fun key found s => (cons head tail).readMember key depth found s)
          (here, tail.blank) ((tail.members values).map renderMember)
          (here, tail.found values) := by
      refine (tail.feeds_members others rest legible).lift (fun found => (here, found)) ?_
      refine List.forall_mem_map.2 fun m mem found next s read => ?_
      have ne : m.1 ≠ head.key := fun same => fresh (same ▸ tail.key_of_mem_members mem)
      rw [keyed_renderMember] at read ⊢
      unfold readMember
      rw [if_neg ne, read]
      rfl
    unfold members at legible ⊢
    unfold found
    split at legible
    · next omitted =>
      rw [if_pos omitted, if_pos omitted]
      exact behind legible none
    · next written =>
      rw [if_neg written, if_neg written]
      obtain ⟨legible_a, legible⟩ := List.forall_mem_cons.1 legible
      have yields_a := yields_of_written faithful value (Bool.not_eq_true _ ▸ written)
      refine .cons (opens_renderMember _) (fun ends => ?_) (behind legible (some a))
      rw [keyed_renderMember]
      unfold readMember
      rw [if_pos rfl]
      show (head.codec.read depth _ >>= _) = _
      rw [faithful.codec.reads yields_a legible_a ends]
      rfl

end Fields

/-! ### The codec of a record -/

section
variable {ρ σ : Type} {name : String} {fields : Fields ρ σ} {depth : Nat}

theorem Codec.yields_of_record {r : ρ} (yields : (Codec.record name fields).Yields (depth + 1) r) :
    fields.Yields depth r := by
  obtain ⟨s, rest, read⟩ := yields
  unfold Codec.record at read
  dsimp only at read
  split at read
  · obtain ⟨_, contents⟩ := Bracket.of_close read
    obtain ⟨⟨found, s⟩, members, complete⟩ := bind_eq_ok.1 contents
    have seen := readMembers_keeps (fields.Seen depth) (fields.seen_blank depth)
      (fun seen read => fields.seen_readMember seen read) members
    dsimp only at complete
    split at complete <;> cases complete
    next value => exact fields.yields_of_complete seen value
  · obtain ⟨_, contents⟩ := Bracket.of_close read
    exact fields.yields_of_readInOrder contents
  · exact absurd read mismatch_ne_ok

/-- A record is faithful if its members are. -/
theorem Codec.faithful_record (h : fields.Faithful depth) :
    (Codec.record name fields).Faithful (depth + 1) where
  finite {r} yields := by
    show ∀ x ∈ (Value.object (fields.members r)).numbers, _
    rw [Value.forall_numbers_object]
    exact fields.finite_members h (yields_of_record yields)
  reads {r} yields legible tail ends := by
    change (Value.object (fields.members r)).Legible at legible
    rw [Value.legible_object] at legible
    have feeds := fields.feeds_members h (yields_of_record yields) legible
    show (Codec.record name fields).read (depth + 1)
      ((Value.object (fields.members r)).render ++ tail) = _
    rw [Value.render_object]
    show Bracket.object.close (readMembers _ _ _ >>= _) = _
    rw [feeds.readMembers]
    simp only [bind, Except.bind, fields.complete_found h r]
    rfl

end

end Dataflow.Json
