import Dataflow.Json.Codec

/-! Records: objects with known members.

A record is read from an object, in which unknown members are skipped and none of
the known ones may repeat, or from a list of its values in order. A member that is
absent takes its default if it has one; a list may stop early in the same way.
`Fields` describes the members one by one, and gives the reading and the writing of
the tuple of their values. -/
namespace Dataflow.Json

/-- A member of a record. `absent` is its value when it is not written, and
`omitted` tells which values are not written. -/
structure Field (α : Type) where
  key : String
  codec : Codec α
  absent : Option α
  omitted : α → Bool

namespace Field

variable {α : Type}

/-- A member that has to be there. -/
def required (key : String) (codec : Codec α) : Field α := ⟨key, codec, none, fun _ => false⟩

/-- A member that may be missing, and is always written. -/
def withDefault (key : String) (codec : Codec α) (value : α) : Field α :=
  ⟨key, codec, some value, fun _ => false⟩

/-- A member that is written when there is a value. -/
def optional (key : String) (codec : Codec α) : Field (Option α) :=
  ⟨key, codec.option, some none, Option.isNone⟩

end Field

/-- The members of a record with values in `ρ`; `σ` holds those found so far. -/
inductive Fields : Type → Type → Type 1 where
  | nil : Fields Unit Unit
  | cons {α ρ σ : Type} (head : Field α) (tail : Fields ρ σ) : Fields (α × ρ) (Option α × σ)

namespace Fields

/-- Nothing found. -/
def blank : {ρ σ : Type} → Fields ρ σ → σ
  | _, _, nil => ()
  | _, _, cons _ tail => (none, tail.blank)

def size : {ρ σ : Type} → Fields ρ σ → Nat
  | _, _, nil => 0
  | _, _, cons _ tail => tail.size + 1

/-- Reads the member with the given key from behind the key. -/
def readMember (key : String) (depth : Nat) : {ρ σ : Type} → Fields ρ σ → σ → Reader σ
  | _, _, nil, (), s => do
    let s ← skipValue (← readColon s)
    .ok ((), s)
  | _, _, cons head tail, (found, others), s =>
    if key = head.key then
      match found with
      | some _ => .error (.adrift s (.duplicateField key))
      | none => do
        let (a, s) ← head.codec.read depth (← readColon s)
        .ok ((some a, others), s)
    else do
      let (others, s) ← tail.readMember key depth others s
      .ok ((found, others), s)

/-- The values of all members, or the first key that is missing. -/
def complete : {ρ σ : Type} → Fields ρ σ → σ → Except String ρ
  | _, _, nil, () => .ok ()
  | _, _, cons head tail, (found, others) =>
    match found.or head.absent with
    | none => .error head.key
    | some a => do .ok (a, ← tail.complete others)

/-- Reads the members of a list of values, of which `index` were looked for before. -/
def readInOrder (expected : String) (depth : Nat) :
    {ρ σ : Type} → Fields ρ σ → Nat → Reader ρ
  | _, _, nil, _, s => .ok ((), s)
  | _, _, cons head tail, index, s => do
    match ← Bracket.list.next (index == 0) s with
    | some s =>
      let (a, s) ← head.codec.read depth s
      let (others, s) ← tail.readInOrder expected depth (index + 1) s
      .ok ((a, others), s)
    | none =>
      match head.absent with
      | none => .error (.adrift s (.wrongLength index expected))
      | some a =>
        let (others, s) ← tail.readInOrder expected depth (index + 1) s
        .ok ((a, others), s)

/-- The members to be written. -/
def members : {ρ σ : Type} → Fields ρ σ → ρ → List (String × Value)
  | _, _, nil, () => []
  | _, _, cons head tail, (a, others) =>
    if head.omitted a then tail.members others
    else (head.key, head.codec.encode a) :: tail.members others

end Fields

/-- A record of the given name. -/
def Codec.record {ρ σ : Type} (name : String) (fields : Fields ρ σ) : Codec ρ where
  read depth s :=
    match skipSpace s with
    | '{' :: s =>
      inside .object depth (fun depth s => do
        let (found, s) ← readMembers (fun key found s => fields.readMember key depth found s)
          fields.blank s
        match fields.complete found with
        | .ok r => .ok (r, s)
        | .error key => .error (.adrift s (.missingField key))) s
    | '[' :: s =>
      inside .list depth (fun depth =>
        fields.readInOrder s!"struct {name} with {fields.size} elements" depth 0) s
    | s => mismatch s!"struct {name}" s
  encode r := .object (fields.members r)

end Dataflow.Json
