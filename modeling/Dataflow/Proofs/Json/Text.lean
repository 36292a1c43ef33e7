import Dataflow.Proofs.Json.Frame

/-! The text of a value, read from its front.

A string is read back from its text whatever follows (`readString_renderString`). A number
is, before a delimiter, if its text on its own reads back (`Legible`): the literal that is
written need not be read as the same number. A value is legible if all its numbers are;
its text then opens an element, and the text of a list or an object is that of its elements
between brackets. -/
namespace Dataflow.Json

/-! ### Strings -/

theorem unescape?_of_escapeLetter? {c letter : Char} (h : escapeLetter? c = some letter) :
    letter ≠ 'u' ∧ unescape? letter = some c := by
  unfold escapeLetter? at h
  split at h <;> cases h <;> exact ⟨by decide, rfl⟩

theorem hexUnit?_digitChar : ∀ n < 0x20,
    hexUnit? '0' '0' (Nat.digitChar (n / 16)) (Nat.digitChar (n % 16)) = some n := by
  decide

theorem classify_control {c : Char} (control : c.toNat < 0x20) :
    Unit16.classify none c.toNat = .char c := by
  have trailing : ¬ (0xDC00 ≤ c.toNat ∧ c.toNat ≤ 0xDFFF) := by omega
  have leading : ¬ (0xD800 ≤ c.toNat ∧ c.toNat ≤ 0xDBFF) := by omega
  simp [Unit16.classify, trailing, leading]

/-- An escaped character is read as the character. -/
theorem scanString_escapeChar (c : Char) (seen rest : List Char) :
    scanString none seen (escapeChar c ++ rest) = scanString none (c :: seen) rest := by
  unfold escapeChar
  split
  · next letter h =>
    obtain ⟨ne, back⟩ := unescape?_of_escapeLetter? h
    simp [scanString, back]
  · next h =>
    split
    · next control =>
      simp [scanString, hexUnit?_digitChar c.toNat control, classify_control control]
    · next printable =>
      have backslash : c ≠ '\\' := by
        rintro rfl
        cases h
      have quote : c ≠ '"' := by
        rintro rfl
        cases h
      simp [scanString, quote, printable]

theorem scanString_flatMap (cs seen tail : List Char) :
    scanString none seen (cs.flatMap escapeChar ++ '"' :: tail) =
      .ok (String.ofList (seen.reverse ++ cs), tail) := by
  induction cs generalizing seen with
  | nil => simp [scanString]
  | cons c cs ih => simp [scanString_escapeChar, ih]

theorem renderString_append (s : String) (tail : List Char) :
    renderString s ++ tail = '"' :: (s.toList.flatMap escapeChar ++ '"' :: tail) := by
  simp [renderString]

/-- A string is read back from its text, whatever follows. -/
theorem readString_renderString (s : String) (tail : List Char) :
    readString (s.toList.flatMap escapeChar ++ '"' :: tail) = .ok (s, tail) := by
  rw [readString, scanString_flatMap]
  simp

theorem readKey_renderString (s : String) (tail : List Char) :
    readKey (renderString s ++ tail) = .ok (s, tail) := by
  rw [renderString_append]
  exact readString_renderString s tail

/-! ### Numbers -/

/-- Whether what is written of a number is read as that number. -/
def Legible (x : Float) : Prop := Codec.number.decode (Value.number x).text = .ok x

/-- None of the characters is a space. -/
def Solid (s : List Char) : Prop := ∀ c ∈ s, isSpace c = false

theorem solid_of_all {s : List Char} (h : s.all (fun c => !isSpace c) = true) : Solid s :=
  fun c hc => (Bool.not_eq_eq_eq_not ..).mp (List.all_eq_true.1 h c hc)

theorem Solid.skipSpace {s : List Char} (h : Solid s) : skipSpace s = s := by
  cases s with
  | nil => rfl
  | cons c s => exact skipSpace_cons (h c List.mem_cons_self) s

theorem isSpace_of_isDigit {c : Char} (h : c.isDigit = true) : isSpace c = false := by
  have {d : Char} (hd : d.isDigit = false) : (c == d) = false := by
    rw [beq_eq_false_iff_ne]
    rintro rfl
    rw [h] at hd
    cases hd
  simp [isSpace, this (d := ' ') rfl, this (d := '\t') rfl, this (d := '\n') rfl,
    this (d := '\r') rfl]

theorem solid_toDigits (n : Nat) : Solid (Nat.toDigits 10 n) := fun _ h =>
  isSpace_of_isDigit (Nat.isDigit_of_mem_toDigits (by decide) (by decide) h)

theorem solid_append {s t : List Char} (hs : Solid s) (ht : Solid t) : Solid (s ++ t) :=
  fun c h => (List.mem_append.1 h).elim (hs c) (ht c)

theorem solid_nil : Solid [] := fun _ h => nomatch h

theorem solid_cons {c : Char} {s : List Char} (hc : isSpace c = false) (hs : Solid s) :
    Solid (c :: s) := List.forall_mem_cons.2 ⟨hc, hs⟩

theorem solid_zeros (n : Nat) : Solid (Decimal.zeros n) := fun c h => by
  rw [List.eq_of_mem_replicate h]
  rfl

theorem solid_sublist {s t : List Char} (h : s.Sublist t) (ht : Solid t) : Solid s :=
  fun c hc => ht c (h.subset hc)

theorem solid_plainText (layout : Decimal.Layout) {digits : List Char} (h : Solid digits)
    (e : Int) : Solid (layout.plainText digits e) := by
  unfold Decimal.Layout.plainText
  split
  · exact solid_cons rfl (solid_cons rfl (solid_append (solid_zeros _) h))
  · dsimp only
    split
    · refine solid_append (solid_append h (solid_zeros _)) ?_
      split
      · exact solid_cons rfl (solid_cons rfl solid_nil)
      · exact solid_nil
    · next fraction =>
      exact solid_append (solid_sublist (List.take_sublist _ _) h)
        (solid_cons rfl (solid_sublist (List.drop_sublist _ _) h))

theorem solid_exponentText {digits : List Char} (h : Solid digits) (e : Int) :
    Solid (Decimal.exponentText digits e) := by
  have sign : isSpace (if e < 0 then '-' else '+') = false := by split <;> rfl
  have exponent := solid_cons (c := 'e') rfl (solid_cons sign (solid_toDigits e.natAbs))
  unfold Decimal.exponentText
  dsimp only
  split
  · exact exponent
  · next d => exact solid_cons (h d List.mem_cons_self) exponent
  · next d fraction _ =>
    obtain ⟨first, others⟩ := List.forall_mem_cons.1 h
    exact solid_cons first (solid_cons rfl (solid_append others exponent))

theorem solid_decimalText (layout : Decimal.Layout) (d : Decimal.Scientific) :
    Solid (layout.decimalText d) := by
  have digits : Solid ((Nat.toDigits 10 d.digits).reverse.dropWhile (· == '0')).reverse :=
    fun c h => solid_toDigits d.digits c (List.mem_reverse.1
      ((List.dropWhile_sublist _).subset (List.mem_reverse.1 h)))
  unfold Decimal.Layout.decimalText
  dsimp only
  split
  · exact solid_plainText layout (solid_cons rfl solid_nil) 0
  · split
    · exact solid_plainText layout digits _
    · exact solid_exponentText digits _

theorem solid_renderNumber (x : Float) : Solid (renderNumber x) := by
  unfold renderNumber Decimal.Layout.write
  have sign : Solid (if Decimal.negative x then ['-'] else []) := by
    split
    · exact solid_cons rfl solid_nil
    · exact solid_nil
  split
  · dsimp only
    split
    · exact solid_of_all rfl
    · split
      · exact solid_append sign (solid_of_all rfl)
      · exact solid_append sign (solid_decimalText _ _)
  · exact solid_of_all rfl

theorem mismatch_ne_ok {α : Type} {expected : String} {s : List Char} {r : Parsed α} :
    mismatch expected s ≠ .ok r := by
  intro h
  obtain ⟨_, _, h⟩ := bind_eq_ok.1 h
  cases h

theorem Codec.of_decode {α : Type} {c : Codec α} {text : String} {a : α}
    (h : c.decode text = .ok a) :
    ∃ rest, c.read depthLimit text.toList = .ok (a, rest) ∧ skipSpace rest = [] := by
  unfold decode at h
  dsimp only at h
  split at h
  · cases h
  · next read =>
    split at h <;> cases h
    next stop => exact ⟨_, read, stop⟩

/-- What the codec of numbers reads, it reads as a number from the first character on. -/
theorem Codec.of_read_number {depth : Nat} {s rest : List Char} {x : Float}
    (h : Codec.number.read depth s = .ok (x, rest)) :
    ∃ c more n, skipSpace s = c :: more ∧ startsNumber c = true ∧
      readNumber (c :: more) = .ok (n, rest) ∧ n.toFloat = x := by
  unfold Codec.number at h
  dsimp only at h
  split at h
  · next c more front =>
    split at h
    · next starts =>
      obtain ⟨⟨n, rest⟩, read, h⟩ := bind_eq_ok.1 h
      cases h
      exact ⟨c, more, n, front, starts, read, rfl⟩
    · exact absurd h mismatch_ne_ok
  · exact absurd h mismatch_ne_ok

/-- A legible number is read before a delimiter as it is read on its own. -/
theorem Legible.read {x : Float} (h : Legible x) :
    ∃ c more n, renderNumber x = c :: more ∧ startsNumber c = true ∧ n.toFloat = x ∧
      ∀ {tail}, Delimited tail → readNumber (c :: more ++ tail) = .ok (n, tail) := by
  obtain ⟨rest, read, stop⟩ := Codec.of_decode h
  have text : (Value.number x).text.toList = renderNumber x := by
    simp [Value.text, Value.render]
  rw [text] at read
  obtain ⟨c, more, n, front, starts, number, value⟩ := Codec.of_read_number read
  rw [(solid_renderNumber x).skipSpace] at front
  obtain ⟨_, suffix, tails⟩ := takes_readNumber _ _ _ number
  have all : rest = [] := by
    rw [← front] at suffix
    rw [← stop]
    exact (solid_sublist suffix.sublist (solid_renderNumber x)).skipSpace.symm
  subst all
  exact ⟨c, more, n, front, starts, value, tails⟩

/-! ### Values -/

mutual

/-- The numbers in a value. -/
def Value.numbers : Value → List Float
  | .number x => [x]
  | .array items => numbersOfItems items
  | .object members => numbersOfMembers members
  | _ => []
termination_by structural v => v

def numbersOfItems : List Value → List Float
  | [] => []
  | v :: vs => v.numbers ++ numbersOfItems vs
termination_by structural vs => vs

def numbersOfMembers : List (String × Value) → List Float
  | [] => []
  | m :: ms => numbersOfMember m ++ numbersOfMembers ms
termination_by structural ms => ms

def numbersOfMember : String × Value → List Float
  | (_, v) => v.numbers
termination_by structural m => m

end

@[simp] theorem numbersOfItems_eq (vs : List Value) :
    numbersOfItems vs = vs.flatMap Value.numbers := by
  induction vs with
  | nil => rfl
  | cons v vs ih => simp [numbersOfItems, ih]

@[simp] theorem numbersOfMembers_eq (ms : List (String × Value)) :
    numbersOfMembers ms = ms.flatMap fun m => m.2.numbers := by
  induction ms with
  | nil => rfl
  | cons m ms ih =>
    obtain ⟨key, v⟩ := m
    simp [numbersOfMembers, numbersOfMember, ih]

theorem Value.forall_numbers_array {P : Float → Prop} {items : List Value} :
    (∀ x ∈ (Value.array items).numbers, P x) ↔ ∀ v ∈ items, ∀ x ∈ v.numbers, P x := by
  simp only [numbers, numbersOfItems_eq, List.mem_flatMap]
  exact ⟨fun h v mem x hx => h x ⟨v, mem, hx⟩, fun h x ⟨v, mem, hx⟩ => h v mem x hx⟩

theorem Value.forall_numbers_object {P : Float → Prop} {members : List (String × Value)} :
    (∀ x ∈ (Value.object members).numbers, P x) ↔ ∀ m ∈ members, ∀ x ∈ m.2.numbers, P x := by
  simp only [numbers, numbersOfMembers_eq, List.mem_flatMap]
  exact ⟨fun h m mem x hx => h x ⟨m, mem, hx⟩, fun h x ⟨m, mem, hx⟩ => h m mem x hx⟩

/-- Whether all numbers in a value are legible. -/
def Value.Legible (v : Value) : Prop := ∀ x ∈ v.numbers, Json.Legible x

theorem Value.legible_array {items : List Value} :
    (Value.array items).Legible ↔ ∀ v ∈ items, v.Legible := forall_numbers_array

theorem Value.legible_object {members : List (String × Value)} :
    (Value.object members).Legible ↔ ∀ m ∈ members, m.2.Legible := forall_numbers_object

theorem renderItems_eq (vs : List Value) :
    renderItems vs = (vs.map Value.render).flatMap (',' :: ·) := by
  induction vs with
  | nil => rfl
  | cons v vs ih => simp [renderItems, ih]

theorem renderMembers_eq (ms : List (String × Value)) :
    renderMembers ms = (ms.map renderMember).flatMap (',' :: ·) := by
  induction ms with
  | nil => rfl
  | cons m ms ih => simp [renderMembers, ih]

theorem Value.render_array (items : List Value) (tail : List Char) :
    (Value.array items).render ++ tail = '[' :: (joined (items.map render) ++ ']' :: tail) := by
  cases items <;> simp [render, joined, renderItems_eq]

theorem Value.render_object (members : List (String × Value)) (tail : List Char) :
    (Value.object members).render ++ tail =
      '{' :: (joined (members.map renderMember) ++ '}' :: tail) := by
  cases members <;> simp [render, joined, renderMembers_eq]

theorem opens_of_startsNumber {c : Char} (h : startsNumber c = true) (s : List Char) :
    Opens (c :: s) := by
  rw [startsNumber, Bool.or_eq_true, beq_iff_eq] at h
  rcases h with rfl | digit
  · exact ⟨rfl, by decide, by decide⟩
  · refine ⟨isSpace_of_isDigit digit, ?_, ?_⟩ <;>
    · rintro rfl
      cases digit

theorem opens_renderString (s : String) : Opens (renderString s) := ⟨rfl, by decide, by decide⟩

/-- A member is read by its key, from its colon on. -/
theorem keyed_renderMember {σ : Type} (member : String → σ → Reader σ) (m : String × Value)
    (state : σ) (tail : List Char) :
    keyed member state (renderMember m ++ tail) =
      member m.1 state (':' :: (m.2.render ++ tail)) := by
  obtain ⟨key, v⟩ := m
  unfold keyed
  rw [renderMember, List.append_assoc, readKey_renderString]
  rfl

theorem opens_renderMember (m : String × Value) : Opens (renderMember m) := by
  obtain ⟨key, v⟩ := m
  exact ⟨rfl, by decide, by decide⟩

/-- The text of a legible value begins an element. -/
theorem Value.opens_render {v : Value} (h : v.Legible) : Opens v.render := by
  match v with
  | .null => exact ⟨rfl, by decide, by decide⟩
  | .bool true => exact ⟨rfl, by decide, by decide⟩
  | .bool false => exact ⟨rfl, by decide, by decide⟩
  | .string s => exact opens_renderString s
  | .count n =>
    cases digits : Nat.toDigits 10 n with
    | nil => exact absurd digits Nat.toDigits_ne_nil
    | cons c s =>
      have digit : c.isDigit = true :=
        Nat.isDigit_of_mem_toDigits (by decide) (by decide) (digits ▸ List.mem_cons_self)
      rw [render, digits]
      exact opens_of_startsNumber (by simp [startsNumber, digit]) s
  | .number x =>
    obtain ⟨c, more, _, text, starts, _⟩ := (h x (List.mem_singleton.2 rfl)).read
    rw [render, text]
    exact opens_of_startsNumber starts more
  | .array [] => exact ⟨rfl, by decide, by decide⟩
  | .array (_ :: _) => exact ⟨rfl, by decide, by decide⟩
  | .object [] => exact ⟨rfl, by decide, by decide⟩
  | .object (_ :: _) => exact ⟨rfl, by decide, by decide⟩

theorem Opens.skipSpace {text : List Char} (opens : Opens text) (tail : List Char) :
    skipSpace (text ++ tail) = text ++ tail := by
  cases text with
  | nil => cases opens
  | cons c text => exact skipSpace_cons opens.1 _

end Dataflow.Json
