import Dataflow.Proofs.Json.Codec

/-! Any JSON value is read back from its text.

What `readValue` gives has finite numbers and nests no deeper than it was allowed to
(`fits_of_readValue`). Such a value is read from its text again when it is legible, at the
same depth (`readValue_render`). -/
namespace Dataflow.Json

/-- A value with at most `depth` nested lists and objects, without counts, and with finite
numbers. -/
inductive Value.Fits : Nat → Value → Prop
  | null (depth : Nat) : Fits depth null
  | bool (depth : Nat) (b : Bool) : Fits depth (bool b)
  | number (depth : Nat) {x : Float} (finite : x.isFinite = true) : Fits depth (number x)
  | string (depth : Nat) (s : String) : Fits depth (string s)
  | array {depth : Nat} {items : List Value} (fit : ∀ v ∈ items, Fits depth v) :
      Fits (depth + 1) (array items)
  | object {depth : Nat} {members : List (String × Value)} (fit : ∀ m ∈ members, Fits depth m.2) :
      Fits (depth + 1) (object members)

/-- The codec of any value. -/
def any : Codec Value := ⟨readValue, id⟩

/-- Reads the value of a member and puts it before those that were found. -/
def memberOfAny (depth : Nat) (key : String) (found : List (String × Value)) :
    Reader (List (String × Value)) := fun s => do
  let (v, s) ← readValue depth (← readColon s)
  .ok ((key, v) :: found, s)

/-! ### What is read -/

/-- One level: what is nested in a value fits if that is known of the next depth. -/
theorem fits_of_level {depth : Nat}
    (level : ∀ {d}, depth = d + 1 → ∀ {s v rest}, readValue d s = .ok (v, rest) → v.Fits d)
    {s rest : List Char} {v : Value} (read : readValue depth s = .ok (v, rest)) :
    v.Fits depth := by
  unfold readValue at read
  split at read
  · cases read
  · rw [Codec.value_of_readWord read]
    exact .null _
  · rw [Codec.value_of_readWord read]
    exact .bool _ _
  · rw [Codec.value_of_readWord read]
    exact .bool _ _
  · obtain ⟨_, _, eq⟩ := bind_eq_ok.1 read
    cases eq
    exact .string _ _
  · split at read
    · cases read
    · obtain ⟨⟨items, _⟩, closed, eq⟩ := bind_eq_ok.1 read
      cases eq
      obtain ⟨_, contents⟩ := Bracket.of_close closed
      refine .array fun v mem => ?_
      refine readItems_keeps (fun found : List Value => ∀ v ∈ found, v.Fits _)
        (List.forall_mem_nil _) (fun kept read => ?_) contents v (List.mem_reverse.1 mem)
      obtain ⟨⟨w, _⟩, one, eq⟩ := bind_eq_ok.1 read
      cases eq
      exact List.forall_mem_cons.2 ⟨level rfl one, kept⟩
  · split at read
    · cases read
    · obtain ⟨⟨members, _⟩, closed, eq⟩ := bind_eq_ok.1 read
      cases eq
      obtain ⟨_, contents⟩ := Bracket.of_close closed
      refine .object fun m mem => ?_
      refine readMembers_keeps (fun found : List (String × Value) => ∀ m ∈ found, m.2.Fits _)
        (List.forall_mem_nil _) (fun kept read => ?_) contents m (List.mem_reverse.1 mem)
      obtain ⟨_, _, read⟩ := bind_eq_ok.1 read
      obtain ⟨⟨w, _⟩, one, eq⟩ := bind_eq_ok.1 read
      cases eq
      exact List.forall_mem_cons.2 ⟨level rfl one, kept⟩
  · split at read
    · obtain ⟨⟨n, _⟩, number, eq⟩ := bind_eq_ok.1 read
      cases eq
      exact .number _ (takes_readNumber _ _ _ number).1
    · cases read

theorem fits_of_readValue {depth : Nat} {s rest : List Char} {v : Value}
    (read : readValue depth s = .ok (v, rest)) : v.Fits depth := by
  induction depth generalizing s v rest with
  | zero => exact fits_of_level (fun same => absurd same (Nat.zero_ne_add_one _)) read
  | succ depth ih =>
    refine fits_of_level (fun same => ?_) read
    cases same
    exact ih

theorem Value.Fits.finite {depth : Nat} {v : Value} (h : v.Fits depth) :
    ∀ x ∈ v.numbers, x.isFinite = true := by
  induction h with
  | null | bool | string => simp [numbers]
  | number _ finite => exact fun x hx => List.mem_singleton.1 hx ▸ finite
  | array _ ih => exact forall_numbers_array.2 ih
  | object _ ih => exact forall_numbers_object.2 ih

/-! ### What is written -/

theorem feeds_memberOfAny {depth : Nat} {members : List (String × Value)}
    (reads : ∀ m ∈ members, any.Reads depth m.2) (found : List (String × Value)) :
    Feeds (keyed (memberOfAny depth)) found (members.map renderMember)
      (members.reverse ++ found) := by
  induction members generalizing found with
  | nil => exact .nil
  | cons m members ih =>
    obtain ⟨reads_m, reads⟩ := List.forall_mem_cons.1 reads
    rw [List.reverse_cons, List.append_assoc]
    refine .cons (opens_renderMember _) (fun ends => ?_) (ih reads (m :: found))
    have read : readValue depth (m.2.render ++ _) = _ := reads_m ends
    rw [keyed_renderMember]
    show (readValue depth _ >>= _) = _
    rw [read]
    rfl

/-- A legible value that fits is read from its text, whatever delimiter follows. -/
theorem readValue_render {depth : Nat} {v : Value} (fits : v.Fits depth) (legible : v.Legible) :
    any.Reads depth v := by
  induction fits with
  | null =>
    intro tail _
    show readValue _ ('n' :: 'u' :: 'l' :: 'l' :: tail) = _
    unfold readValue
    rfl
  | bool _ b =>
    intro tail _
    cases b with
    | false =>
      show readValue _ ('f' :: 'a' :: 'l' :: 's' :: 'e' :: tail) = _
      unfold readValue
      rfl
    | true =>
      show readValue _ ('t' :: 'r' :: 'u' :: 'e' :: tail) = _
      unfold readValue
      rfl
  | string _ s =>
    intro tail _
    show readValue _ (renderString s ++ tail) = _
    rw [renderString_append]
    unfold readValue
    show (readString _ >>= _) = _
    rw [readString_renderString]
    rfl
  | @number _ x =>
    intro tail ends
    obtain ⟨c, more, n, text, starts, value, read⟩ := (legible x (List.mem_singleton.2 rfl)).read
    have opens := opens_of_startsNumber starts more
    show readValue _ (renderNumber x ++ tail) = _
    unfold readValue
    rw [text, opens.skipSpace]
    split
    · next heq => cases heq
    iterate 6
      · next heq =>
        rw [(List.cons.inj heq).1] at starts
        cases starts
    · next heq =>
      cases heq
      rw [if_pos starts]
      show (readNumber (c :: more ++ tail) >>= _) = _
      rw [read ends, ← value]
      rfl
  | array _ ih =>
    intro tail _
    rw [Value.legible_array] at legible
    have feeds := Codec.feeds_item (c := any) (fun v mem => Value.opens_render (legible v mem))
      (fun v mem => ih v mem (legible v mem)) []
    show readValue _ ((Value.array _).render ++ tail) = _
    rw [Value.render_array]
    show (Bracket.list.close (readItems (any.item _) [] _) >>= _) = _
    rw [show Value.render = fun v => (any.encode v).render from rfl, feeds.readItems,
      Bracket.close_list]
    simp [bind, Except.bind]
  | object _ ih =>
    intro tail _
    rw [Value.legible_object] at legible
    have feeds := feeds_memberOfAny (fun m mem => ih m mem (legible m mem)) []
    show readValue _ ((Value.object _).render ++ tail) = _
    rw [Value.render_object]
    show (Bracket.object.close (readMembers (memberOfAny _) [] _) >>= _) = _
    rw [feeds.readMembers, Bracket.close_object]
    simp [bind, Except.bind]

end Dataflow.Json
