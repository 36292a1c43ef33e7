import Dataflow.Proofs.Json.Number

/-! Reading the contents of a list or an object.

Items and members are read by one loop (`loop`), which differs in the bracket and in what
it does at an element. Two facts about it are all that is used. What every element keeps,
the loop keeps (`loop_keeps`). And if the elements feed a state on to another one, each
whatever follows it, then the loop reads their texts, joined by commas, up to the closing
bracket (`Feeds.loop`). -/
namespace Dataflow.Json

/-- A chain of readings succeeds when each of them does. -/
theorem bind_eq_ok {ε α β : Type} {x : Except ε α} {f : α → Except ε β} {b : β} :
    x >>= f = .ok b ↔ ∃ a, x = .ok a ∧ f a = .ok b := by
  cases x with
  | error e => exact ⟨(nomatch ·), fun ⟨_, h, _⟩ => nomatch h⟩
  | ok a => exact ⟨fun h => ⟨a, rfl, h⟩, fun ⟨_, h, h'⟩ => by cases h; exact h'⟩

variable {σ : Type}

/-- The elements up to the closing bracket; `first` as long as there was none. -/
def loop (b : Bracket) (element : σ → Reader σ) : List Char → Bool → σ → Reader σ
  | [], _, state, s => .ok (state, s)
  | _ :: fuel, first, state, s => do
    match ← b.next first s with
    | none => .ok (state, s)
    | some s =>
      let (state, s) ← element state s
      loop b element fuel false state s

theorem readItemsFrom_eq (item : σ → Reader σ) (fuel : List Char) (first : Bool) (state : σ)
    (s : List Char) :
    readItemsFrom item fuel first state s = loop .list item fuel first state s := by
  induction fuel generalizing first state s with
  | nil => rfl
  | cons _ fuel ih =>
    show (Bracket.list.next first s >>= _) = (Bracket.list.next first s >>= _)
    refine congrArg _ (funext fun place => ?_)
    cases place with
    | none => rfl
    | some s => exact congrArg (item state s >>= ·) (funext fun next => ih false next.1 next.2)

/-- Reads a member with its key. -/
def keyed (member : String → σ → Reader σ) (state : σ) : Reader σ := fun s => do
  let (key, s) ← readKey s
  member key state s

theorem readMembersFrom_eq (member : String → σ → Reader σ) (fuel : List Char) (first : Bool)
    (state : σ) (s : List Char) :
    readMembersFrom member fuel first state s = loop .object (keyed member) fuel first state s := by
  induction fuel generalizing first state s with
  | nil => rfl
  | cons _ fuel ih =>
    show (Bracket.object.next first s >>= _) = (Bracket.object.next first s >>= _)
    refine congrArg _ (funext fun place => ?_)
    cases place with
    | none => rfl
    | some s =>
      show (readKey s >>= fun key => member key.1 state key.2 >>= _) = ((readKey s >>= _) >>= _)
      rw [bind_assoc]
      refine congrArg (readKey s >>= ·) (funext fun key => ?_)
      exact congrArg (member key.1 state key.2 >>= ·) (funext fun next => ih false next.1 next.2)

/-- What is kept at every element is kept by the loop. -/
theorem loop_keeps {b : Bracket} {element : σ → Reader σ} (P : σ → Prop)
    (step : ∀ {state s next rest}, P state → element state s = .ok (next, rest) → P next)
    {fuel : List Char} {first : Bool} {state final : σ} {s rest : List Char} (start : P state)
    (h : loop b element fuel first state s = .ok (final, rest)) : P final := by
  induction fuel generalizing first state s with
  | nil =>
    cases h
    exact start
  | cons _ fuel ih =>
    obtain ⟨place, _, h⟩ := bind_eq_ok.1 h
    cases place with
    | none =>
      cases h
      exact start
    | some s =>
      obtain ⟨⟨next, s⟩, read, h⟩ := bind_eq_ok.1 h
      exact ih (step start read) h

/-- A text that begins an element: not with a space, and not with a closing bracket. -/
def Opens : List Char → Prop
  | [] => False
  | c :: _ => isSpace c = false ∧ c ≠ ']' ∧ c ≠ '}'

/-- The elements of the given texts feed a state on to another one. -/
inductive Feeds (element : σ → Reader σ) : σ → List (List Char) → σ → Prop
  | nil {state : σ} : Feeds element state [] state
  | cons {state next final : σ} {text : List Char} {texts : List (List Char)}
      (opens : Opens text)
      (read : ∀ {tail}, Delimited tail → element state (text ++ tail) = .ok (next, tail))
      (more : Feeds element next texts final) : Feeds element state (text :: texts) final

/-- What feeds one state feeds another one with it, if each text does. -/
theorem Feeds.lift {τ : Type} {element : σ → Reader σ} {element' : τ → Reader τ} {state final : σ}
    {texts : List (List Char)} (h : Feeds element state texts final) (f : σ → τ)
    (step : ∀ text ∈ texts, ∀ {state next tail},
      element state (text ++ tail) = .ok (next, tail) →
        element' (f state) (text ++ tail) = .ok (f next, tail)) :
    Feeds element' (f state) texts (f final) := by
  induction h with
  | nil => exact .nil
  | cons opens read _ ih =>
    obtain ⟨step_text, step⟩ := List.forall_mem_cons.1 step
    exact .cons opens (fun ends => step_text (read ends)) (ih step)

/-- Texts with commas between them. -/
def joined : List (List Char) → List Char
  | [] => []
  | text :: texts => text ++ texts.flatMap (',' :: ·)

namespace Bracket

theorem next_closing (b : Bracket) (first : Bool) (tail : List Char) :
    b.next first (b.closing :: tail) = .ok none := by
  cases b <;> rfl

theorem next_first (b : Bracket) {text : List Char} (opens : Opens text) (tail : List Char) :
    b.next true (text ++ tail) = .ok (some (text ++ tail)) := by
  cases text with
  | nil => cases opens
  | cons c text =>
    obtain ⟨space, list, object⟩ := opens
    cases b <;> simp [next, skipSpace_cons space, closing, list, object]

theorem next_comma (b : Bracket) {text : List Char} (opens : Opens text) (tail : List Char) :
    b.next false (',' :: (text ++ tail)) = .ok (some (text ++ tail)) := by
  cases text with
  | nil => cases opens
  | cons c text =>
    obtain ⟨space, list, object⟩ := opens
    have comma : isSpace ',' = false := rfl
    cases b <;> simp [next, skipSpace_cons comma, skipSpace_cons space, closing, list, object]

end Bracket

section
variable {b : Bracket} {element : σ → Reader σ} {state final : σ} {texts : List (List Char)}

theorem delimited_flatMap (b : Bracket) (texts : List (List Char)) (tail : List Char) :
    Delimited (texts.flatMap (',' :: ·) ++ b.closing :: tail) := by
  cases texts with
  | nil => cases b <;> simp [Delimited, Bracket.closing]
  | cons text texts => exact .inl rfl

theorem Feeds.loop_behind (h : Feeds element state texts final) {fuel : List Char}
    (enough : texts.length < fuel.length) (tail : List Char) :
    loop b element fuel false state (texts.flatMap (',' :: ·) ++ b.closing :: tail) =
      .ok (final, b.closing :: tail) := by
  induction h generalizing fuel with
  | nil =>
    cases fuel with
    | nil => cases enough
    | cons _ fuel =>
      simp only [List.flatMap_nil, List.nil_append, loop, Bracket.next_closing]
      rfl
  | cons opens read more ih =>
    cases fuel with
    | nil => cases enough
    | cons _ fuel =>
      simp only [List.flatMap_cons, List.cons_append, List.append_assoc, loop,
        Bracket.next_comma b opens]
      simp only [bind, Except.bind, read (delimited_flatMap b _ tail)]
      exact ih (Nat.lt_of_succ_lt_succ enough)

theorem Feeds.loop (h : Feeds element state texts final) {fuel : List Char}
    (enough : texts.length < fuel.length) (tail : List Char) :
    loop b element fuel true state (joined texts ++ b.closing :: tail) =
      .ok (final, b.closing :: tail) := by
  cases h with
  | nil =>
    cases fuel with
    | nil => cases enough
    | cons _ fuel =>
      simp only [joined, List.nil_append, Json.loop, Bracket.next_closing]
      rfl
  | cons opens read more =>
    cases fuel with
    | nil => cases enough
    | cons _ fuel =>
      simp only [joined, List.append_assoc, Json.loop, Bracket.next_first b opens]
      simp only [bind, Except.bind, read (delimited_flatMap b _ tail)]
      exact more.loop_behind (Nat.lt_of_succ_lt_succ enough) tail

theorem Feeds.length_le (h : Feeds element state texts final) :
    texts.length ≤ (joined texts).length := by
  have behind {state final} {texts : List (List Char)} (h : Feeds element state texts final) :
      texts.length ≤ (texts.flatMap (',' :: ·)).length := by
    induction h with
    | nil => exact Nat.zero_le _
    | cons _ _ _ ih =>
      simp only [List.length_cons, List.flatMap_cons, List.length_append]
      omega
  cases h with
  | nil => exact Nat.zero_le _
  | @cons _ _ _ text texts opens read more =>
    have := behind more
    cases text with
    | nil => cases opens
    | cons c text =>
      simp only [joined, List.length_cons, List.length_append]
      omega

end

/-! ### The loop of each bracket -/

section
variable {state final : σ} {texts : List (List Char)}

theorem Feeds.readItems {item : σ → Reader σ} (h : Feeds item state texts final)
    (tail : List Char) :
    readItems item state (joined texts ++ ']' :: tail) = .ok (final, ']' :: tail) := by
  have enough := h.length_le
  unfold Json.readItems
  rw [readItemsFrom_eq]
  exact h.loop (b := .list) (by simp; omega) tail

theorem Feeds.readMembers {member : String → σ → Reader σ}
    (h : Feeds (keyed member) state texts final) (tail : List Char) :
    readMembers member state (joined texts ++ '}' :: tail) = .ok (final, '}' :: tail) := by
  have enough := h.length_le
  unfold Json.readMembers
  rw [readMembersFrom_eq]
  exact h.loop (b := .object) (by simp; omega) tail

variable {s rest : List Char} (P : σ → Prop) (start : P state)
include start

theorem readItems_keeps {item : σ → Reader σ}
    (step : ∀ {state s next rest}, P state → item state s = .ok (next, rest) → P next)
    (h : readItems item state s = .ok (final, rest)) : P final := by
  unfold readItems at h
  rw [readItemsFrom_eq] at h
  exact loop_keeps P step start h

theorem readMembers_keeps {member : String → σ → Reader σ}
    (step : ∀ {key state s next rest}, P state → member key state s = .ok (next, rest) → P next)
    (h : readMembers member state s = .ok (final, rest)) : P final := by
  unfold readMembers at h
  rw [readMembersFrom_eq] at h
  refine loop_keeps P (fun kept read => ?_) start h
  obtain ⟨_, _, read⟩ := bind_eq_ok.1 read
  exact step kept read

end

theorem Bracket.close_list {α : Type} (a : α) (tail : List Char) :
    Bracket.list.close (.ok (a, ']' :: tail)) = .ok (a, tail) := rfl

theorem Bracket.close_object {α : Type} (a : α) (tail : List Char) :
    Bracket.object.close (.ok (a, '}' :: tail)) = .ok (a, tail) := rfl

theorem Bracket.of_close {α : Type} {b : Bracket} {contents : Except Fault (Parsed α)} {a : α}
    {rest : List Char} (h : b.close contents = .ok (a, rest)) : ∃ s, contents = .ok (a, s) := by
  cases contents with
  | error fault => cases h
  | ok parsed =>
    unfold Bracket.close at h
    dsimp only at h
    split at h <;> cases h
    exact ⟨_, rfl⟩

end Dataflow.Json
