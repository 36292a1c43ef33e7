import Dataflow.Proofs.Entries
import Dataflow.Proofs.Json.Text

/-! Codecs that read back what they have read and written.

A codec is faithful at a depth (`Codec.Faithful`) if each value that some text yields there
has finite numbers only, and is read from its own text again when these are legible. A
list and a map take the faithfulness of what is in them one level up. -/
namespace Dataflow.Json

namespace Codec

variable {α β : Type} {c : Codec α} {depth : Nat}

/-- Whether a value is read from some text. -/
def Yields (c : Codec α) (depth : Nat) (a : α) : Prop := ∃ s rest, c.read depth s = .ok (a, rest)

/-- Whether a value is read from its own text. -/
def Reads (c : Codec α) (depth : Nat) (a : α) : Prop :=
  ∀ {tail}, Delimited tail → c.read depth ((c.encode a).render ++ tail) = .ok (a, tail)

structure Faithful (c : Codec α) (depth : Nat) : Prop where
  finite {a : α} : c.Yields depth a → ∀ x ∈ (c.encode a).numbers, x.isFinite = true
  reads {a : α} : c.Yields depth a → (c.encode a).Legible → c.Reads depth a

/-- What a faithful codec decodes, it decodes again from its text. -/
theorem Faithful.decode (h : c.Faithful depthLimit) {text : String} {a : α}
    (decoded : c.decode text = .ok a)
    (legible : ∀ x ∈ (c.encode a).numbers, x.isFinite = true → Json.Legible x) :
    c.decode (c.encode a).text = .ok a := by
  obtain ⟨rest, read, _⟩ := of_decode decoded
  have yields : c.Yields depthLimit a := ⟨_, _, read⟩
  have again := h.reads yields (fun x hx => legible x hx (h.finite yields x hx)) delimited_nil
  rw [List.append_nil] at again
  have text : (c.encode a).text.toList = (c.encode a).render := by simp [Value.text]
  unfold Codec.decode
  dsimp only
  rw [text, again]
  rfl

theorem faithful_string : Codec.string.Faithful depth where
  finite _ := fun x hx => nomatch hx
  reads {s} _ _ tail _ := by
    show Codec.string.read depth (renderString s ++ tail) = _
    rw [renderString_append]
    exact readString_renderString s tail

theorem faithful_bool : Codec.bool.Faithful depth where
  finite {b} _ := by cases b <;> exact fun x hx => nomatch hx
  reads {b} _ _ tail _ := by cases b <;> rfl

theorem faithful_number : Codec.number.Faithful depth where
  finite {x} yields := by
    obtain ⟨s, rest, read⟩ := yields
    obtain ⟨c, more, n, _, _, number, value⟩ := of_read_number read
    have finite := (takes_readNumber _ _ _ number).1
    intro y hy
    rw [List.mem_singleton.1 hy, ← value]
    exact finite
  reads {x} _ legible tail ends := by
    obtain ⟨c, more, n, text, starts, value, read⟩ := (legible x (List.mem_singleton.2 rfl)).read
    have opens := opens_of_startsNumber starts more
    show Codec.number.read depth (renderNumber x ++ tail) = _
    unfold Codec.number
    dsimp only
    rw [text, List.cons_append, skipSpace_cons opens.1]
    dsimp only
    rw [if_pos starts, ← List.cons_append, read ends, ← value]
    rfl

theorem Faithful.imap (h : c.Faithful depth) {wrap : α → β} {unwrap : β → α}
    (back : ∀ a, unwrap (wrap a) = a) : (c.imap wrap unwrap).Faithful depth := by
  have inner {b} (yields : (c.imap wrap unwrap).Yields depth b) :
      ∃ a, c.Yields depth a ∧ wrap a = b := by
    obtain ⟨s, rest, read⟩ := yields
    obtain ⟨⟨a, rest⟩, read, eq⟩ := bind_eq_ok.1 read
    cases eq
    exact ⟨a, ⟨s, rest, read⟩, rfl⟩
  refine ⟨fun yields => ?_, fun yields legible tail ends => ?_⟩
  · obtain ⟨a, from_c, rfl⟩ := inner yields
    show ∀ x ∈ (c.encode (unwrap (wrap a))).numbers, _
    rw [back]
    exact h.finite from_c
  · obtain ⟨a, from_c, rfl⟩ := inner yields
    change (c.encode (unwrap (wrap a))).Legible at legible
    show (c.read depth ((c.encode (unwrap (wrap a))).render ++ tail) >>= _) = _
    rw [back] at legible ⊢
    rw [h.reads from_c legible ends]
    rfl

/-! ### Options -/

/-- Whether no value is read from a text that begins as `null` does. -/
def RefusesNull (c : Codec α) (depth : Nat) : Prop :=
  ∀ s r, c.read depth ('n' :: s) ≠ .ok r

theorem refusesNull_string : Codec.string.RefusesNull depth := fun _ _ => mismatch_ne_ok

theorem refusesNull_list : c.list.RefusesNull depth := by
  intro s r h
  change mismatch "a sequence" ('n' :: s) = .ok r at h
  exact mismatch_ne_ok h

theorem value_of_readWord {value a : α} {word s rest : List Char}
    (h : readWord value word s = .ok (a, rest)) : a = value := by
  induction word generalizing s with
  | nil =>
    cases h
    rfl
  | cons letter word ih =>
    cases s with
    | nil => cases h
    | cons c s =>
      unfold readWord at h
      split at h
      · exact ih h
      · cases h

theorem yields_of_option {a : α} (yields : c.option.Yields depth (some a)) :
    c.Yields depth a := by
  obtain ⟨s, rest, read⟩ := yields
  unfold Codec.option at read
  dsimp only at read
  split at read
  · cases value_of_readWord read
  · obtain ⟨⟨a, rest⟩, inner, eq⟩ := bind_eq_ok.1 read
    cases eq
    exact ⟨_, _, inner⟩

theorem Faithful.option (h : c.Faithful depth) (refuses : c.RefusesNull depth) :
    c.option.Faithful depth where
  finite {a} yields := by
    cases a with
    | none => exact fun x hx => nomatch hx
    | some a => exact h.finite (yields_of_option yields)
  reads {a} yields legible tail ends := by
    cases a with
    | none => rfl
    | some a =>
      change (c.encode a).Legible at legible
      have read := h.reads (yields_of_option yields) legible ends
      have opens := Value.opens_render legible
      show c.option.read depth ((c.encode a).render ++ tail) = _
      unfold Codec.option
      dsimp only
      rw [opens.skipSpace]
      split
      · next null =>
        rw [null] at read
        exact absurd read (refuses _ _)
      · rw [read]
        rfl

/-! ### Lists -/

theorem yields_of_list {items : List α} (yields : c.list.Yields (depth + 1) items) :
    ∀ a ∈ items, c.Yields depth a := by
  obtain ⟨s, rest, read⟩ := yields
  unfold Codec.list at read
  dsimp only at read
  split at read
  · obtain ⟨⟨found, rest⟩, closed, eq⟩ := bind_eq_ok.1 read
    cases eq
    obtain ⟨_, contents⟩ := Bracket.of_close closed
    have kept := readItems_keeps (fun found : List α => ∀ a ∈ found, c.Yields depth a)
      (List.forall_mem_nil _) (fun kept read => ?_) contents
    · exact fun a mem => kept a (List.mem_reverse.1 mem)
    · obtain ⟨⟨a, rest⟩, one, eq⟩ := bind_eq_ok.1 read
      cases eq
      exact List.forall_mem_cons.2 ⟨⟨_, _, one⟩, kept⟩
  · exact absurd read mismatch_ne_ok

/-- Reads an item and puts it before those that were found. -/
def item (c : Codec α) (depth : Nat) (found : List α) : Reader (List α) := fun s => do
  let (a, s) ← c.read depth s
  .ok (a :: found, s)

theorem feeds_item {items : List α} (opens : ∀ a ∈ items, Opens (c.encode a).render)
    (reads : ∀ a ∈ items, c.Reads depth a) (found : List α) :
    Feeds (c.item depth) found (items.map fun a => (c.encode a).render)
      (items.reverse ++ found) := by
  induction items generalizing found with
  | nil => exact .nil
  | cons a items ih =>
    obtain ⟨open_a, opens⟩ := List.forall_mem_cons.1 opens
    obtain ⟨reads_a, reads⟩ := List.forall_mem_cons.1 reads
    rw [List.reverse_cons, List.append_assoc]
    refine .cons open_a (fun ends => ?_) (ih opens reads (a :: found))
    unfold item
    rw [reads_a ends]
    rfl

theorem Faithful.list (h : c.Faithful depth) : c.list.Faithful (depth + 1) where
  finite {items} yields := by
    show ∀ x ∈ (Value.array (items.map c.encode)).numbers, _
    rw [Value.forall_numbers_array, List.forall_mem_map]
    exact fun a mem => h.finite (yields_of_list yields a mem)
  reads {items} yields legible tail ends := by
    change (Value.array (items.map c.encode)).Legible at legible
    rw [Value.legible_array, List.forall_mem_map] at legible
    have opens : ∀ a ∈ items, Opens (c.encode a).render := fun a mem =>
      Value.opens_render (legible a mem)
    have reads : ∀ a ∈ items, c.Reads depth a := fun a mem =>
      h.reads (yields_of_list yields a mem) (legible a mem)
    have feeds := feeds_item opens reads []
    show c.list.read (depth + 1) ((Value.array (items.map c.encode)).render ++ tail) = _
    rw [Value.render_array, List.map_map]
    show (Bracket.list.close (readItems (c.item depth) [] _) >>= _) = _
    rw [Function.comp_def, feeds.readItems, Bracket.close_list]
    simp [bind, Except.bind]

/-! ### Entries -/

/-- Reads the value of an entry and writes it under its key. -/
def entry (c : Codec α) (depth : Nat) (key : String) (found : Entries α) : Reader (Entries α) :=
  fun s => do
    let (a, s) ← c.read depth (← readColon s)
    .ok (found.insert key a, s)

theorem yields_of_entries {all : Entries α} (yields : c.entries.Yields (depth + 1) all) :
    Entries.Ascending all ∧ ∀ e ∈ all, c.Yields depth e.2 := by
  obtain ⟨s, rest, read⟩ := yields
  unfold Codec.entries at read
  dsimp only at read
  split at read
  · obtain ⟨_, contents⟩ := Bracket.of_close read
    refine readMembers_keeps
      (fun found : Entries α => Entries.Ascending found ∧ ∀ e ∈ found, c.Yields depth e.2)
      ⟨.nil, List.forall_mem_nil _⟩ (fun ⟨ascending, kept⟩ read => ?_) contents
    obtain ⟨_, _, read⟩ := bind_eq_ok.1 read
    obtain ⟨⟨a, rest⟩, one, eq⟩ := bind_eq_ok.1 read
    cases eq
    refine ⟨Entries.ascending_insert ascending _ _, fun e mem => ?_⟩
    obtain rfl | mem := Entries.mem_insert mem
    · exact ⟨_, _, one⟩
    · exact kept e mem
  · exact absurd read mismatch_ne_ok

theorem feeds_entry {entries : Entries α} (found : Entries α)
    (ascending : Entries.Ascending (found ++ entries))
    (reads : ∀ e ∈ entries, c.Reads depth e.2) :
    Feeds (keyed (c.entry depth)) found
      (entries.map fun e => renderMember (e.1, c.encode e.2)) (found ++ entries) := by
  induction entries generalizing found with
  | nil =>
    rw [List.append_nil]
    exact .nil
  | cons e entries ih =>
    obtain ⟨reads_e, reads⟩ := List.forall_mem_cons.1 reads
    have last : ∀ f ∈ found, f.1 < e.1 := fun f mem =>
      (List.pairwise_append.1 ascending).2.2 f mem e List.mem_cons_self
    have again : found ++ e :: entries = found.insert e.1 e.2 ++ entries := by
      rw [Entries.insert_of_forall_lt last, List.append_assoc]
      rfl
    rw [again] at ascending ⊢
    refine .cons (opens_renderMember _) (fun ends => ?_) (ih _ ascending reads)
    rw [keyed_renderMember]
    show (c.read depth _ >>= _) = _
    rw [reads_e ends]
    rfl

theorem Faithful.entries (h : c.Faithful depth) : c.entries.Faithful (depth + 1) where
  finite {all} yields := by
    show ∀ x ∈ (Value.object (all.map fun e => (e.1, c.encode e.2))).numbers, _
    rw [Value.forall_numbers_object, List.forall_mem_map]
    exact fun e mem => h.finite ((yields_of_entries yields).2 e mem)
  reads {all} yields legible tail ends := by
    change (Value.object (all.map fun e => (e.1, c.encode e.2))).Legible at legible
    rw [Value.legible_object, List.forall_mem_map] at legible
    obtain ⟨ascending, values⟩ := yields_of_entries yields
    have reads : ∀ e ∈ all, c.Reads depth e.2 := fun e mem =>
      h.reads (values e mem) (legible e mem)
    have feeds := feeds_entry [] ascending reads
    show c.entries.read (depth + 1)
      ((Value.object (all.map fun e => (e.1, c.encode e.2))).render ++ tail) = _
    rw [Value.render_object, List.map_map]
    show Bracket.object.close (readMembers (c.entry depth) [] _) = _
    rw [Function.comp_def, feeds.readMembers]
    rfl

/-! ### Choices -/

section
variable {name : α → String} {known : List α}

theorem mem_of_readName {s rest : List Char} {a : α}
    (h : readName name known s = .ok (a, rest)) : a ∈ known := by
  obtain ⟨⟨text, s⟩, _, h⟩ := bind_eq_ok.1 h
  dsimp only at h
  split at h
  · next found =>
    cases h
    exact List.mem_of_find?_eq_some found
  · cases h

theorem mem_of_choice {a : α} (yields : (choice name known).Yields depth a) : a ∈ known := by
  obtain ⟨s, rest, read⟩ := yields
  unfold choice at read
  dsimp only at read
  split at read
  · cases read
  · exact mem_of_readName read
  · split at read
    · cases read
    · obtain ⟨⟨b, s⟩, read_name, read⟩ := bind_eq_ok.1 read
      obtain ⟨_, _, read⟩ := bind_eq_ok.1 read
      have same : b = a := by
        split at read <;>
        · obtain ⟨_, _, read⟩ := bind_eq_ok.1 read
          split at read <;> cases read
          rfl
      unfold readNameKey at read_name
      split at read_name
      · cases read_name
      · exact same ▸ mem_of_readName read_name
      · cases read_name
      · cases read_name
  · cases read

/-- A choice is faithful if its names tell the values apart. -/
theorem faithful_choice (apart : ∀ a ∈ known, known.find? (fun b => name b = name a) = some a) :
    (choice name known).Faithful depth where
  finite _ := fun x hx => nomatch hx
  reads {a} yields _ tail _ := by
    show (choice name known).read depth (renderString (name a) ++ tail) = _
    rw [renderString_append]
    show readName name known _ = _
    unfold readName
    rw [readString_renderString]
    simp only [bind, Except.bind]
    rw [apart a (mem_of_choice yields)]

end

end Codec

end Dataflow.Json
