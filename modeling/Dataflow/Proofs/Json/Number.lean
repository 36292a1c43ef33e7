import Dataflow.Json.Codec
import Dataflow.Proofs.Decimal.Finite

/-! Reading a number: what follows it does not matter, and it is finite.

A value in a saved text is followed by a comma, a closing bracket or nothing
(`Delimited`). A reader of numbers takes what it reads from the front of the text, reads
the same when a delimiter follows, and gives a finite number (`Takes`). That is proved of
the readers one by one, in the order in which they call one another, and the main result is
`takes_readNumber`. -/
namespace Dataflow.Json

open Decimal (Significand)

/-! ### What follows a value -/

/-- Nothing, a comma or a closing bracket. -/
def Delimited : List Char → Prop
  | [] => True
  | c :: _ => c = ',' ∨ c = ']' ∨ c = '}'

theorem delimited_nil : Delimited [] := trivial

namespace Delimited

variable {tail : List Char}

theorem takeWhile_append (ends : Delimited tail) (s : List Char) :
    (s ++ tail).takeWhile Char.isDigit = s.takeWhile Char.isDigit := by
  induction s with
  | nil =>
    cases tail with
    | nil => rfl
    | cons c tail => obtain rfl | rfl | rfl := ends <;> rfl
  | cons c s ih => simp [List.takeWhile_cons, ih]

theorem dropWhile_append (ends : Delimited tail) (s : List Char) :
    (s ++ tail).dropWhile Char.isDigit = s.dropWhile Char.isDigit ++ tail := by
  induction s with
  | nil =>
    cases tail with
    | nil => rfl
    | cons c tail => obtain rfl | rfl | rfl := ends <;> rfl
  | cons c s ih =>
    simp only [List.cons_append, List.dropWhile_cons, ih]
    split <;> simp

theorem digit_follows (ends : Delimited tail) {s : List Char}
    (h : (s ++ tail).head?.any Char.isDigit = true) : s.head?.any Char.isDigit = true := by
  cases s with
  | nil =>
    cases tail with
    | nil => exact h
    | cons c tail => obtain rfl | rfl | rfl := ends <;> cases h
  | cons c s => exact h

end Delimited

/-! ### Readers that look no further than a delimiter -/

section
variable {α : Type} {good : α → Prop} {read read' : Reader α} {s : List Char}

/-- What is read at `s` is `good` and stands at the front of `s`, and a delimiter behind
`s` changes nothing. -/
def TakesAt (good : α → Prop) (read : Reader α) (s : List Char) : Prop :=
  ∀ a rest, read s = .ok (a, rest) →
    good a ∧ rest <:+ s ∧ ∀ {tail}, Delimited tail → read (s ++ tail) = .ok (a, rest ++ tail)

def Takes (good : α → Prop) (read : Reader α) : Prop := ∀ s, TakesAt good read s

/-- A reader that skips `front` and goes on as another one. -/
theorem TakesAt.behind (front : List Char) (h : TakesAt good read s)
    (same : ∀ {tail}, Delimited tail → read' (front ++ s ++ tail) = read (s ++ tail)) :
    TakesAt good read' (front ++ s) := by
  intro a rest ok
  have here := same delimited_nil
  rw [List.append_nil, List.append_nil] at here
  rw [here] at ok
  obtain ⟨value, suffix, more⟩ := h a rest ok
  refine ⟨value, suffix.trans (List.suffix_append front s), fun ends => ?_⟩
  rw [same ends, more ends]

end

/-! ### Exponents -/

/-- An exponent with more text behind it. -/
def Exponent.append (tail : List Char) : Exponent → Exponent
  | .value n rest => .value n (rest ++ tail)
  | .huge rest => .huge (rest ++ tail)

def Exponent.rest : Exponent → List Char
  | .value _ rest => rest
  | .huge rest => rest

theorem Exponent.scan_append {tail : List Char} (ends : Delimited tail) (n : Nat) (s : List Char) :
    Exponent.scan n (s ++ tail) = (Exponent.scan n s).append tail := by
  induction s generalizing n with
  | nil =>
    cases tail with
    | nil => rfl
    | cons c tail => obtain rfl | rfl | rfl := ends <;> rfl
  | cons c s ih =>
    simp only [List.cons_append, Exponent.scan, ih]
    split
    · split <;> rfl
    · rfl

theorem Exponent.rest_scan (n : Nat) (s : List Char) : (Exponent.scan n s).rest <:+ s := by
  induction s generalizing n with
  | nil => exact List.suffix_rfl
  | cons c s ih =>
    simp only [Exponent.scan]
    split
    · split
      · exact List.suffix_cons c s
      · exact (ih _).trans (List.suffix_cons c s)
    · exact List.suffix_rfl

/-! ### Numbers -/

def Numeral.Finite (n : Numeral) : Prop := n.toFloat.isFinite = true

theorem finite_signed {minus : Bool} {x : Float} (h : x.isFinite = true) :
    (Numeral.float (signed minus x)).Finite := by
  cases minus with
  | false => exact h
  | true => exact Decimal.isFinite_neg h

theorem finite_ofDigits {minus : Bool} {digits : Nat} (small : digits < 2 ^ 64) :
    (Numeral.ofDigits minus digits).Finite := by
  unfold Numeral.ofDigits
  split
  · exact Decimal.isFinite_ofInt (by simpa using small)
  · split
    · exact Decimal.isFinite_neg (Decimal.isFinite_ofNat small)
    · exact Decimal.isFinite_ofInt (by simpa using small)

section
variable (minus : Bool) {sig : Significand} (small : sig.digits < 2 ^ 64)
include small

theorem takes_finishNumber (exponent : Int) :
    Takes Numeral.Finite (finishNumber minus sig exponent) := by
  intro s n rest h
  unfold finishNumber at h ⊢
  split at h <;> cases h
  next value =>
  exact ⟨finite_signed (Decimal.isFinite_value? small value), List.suffix_rfl, fun _ => rfl⟩

omit small in
/-- The digits of an exponent, from behind its sign. -/
def readPower (minus : Bool) (sig : Significand) (down : Bool) : Reader Numeral := fun s =>
  match s with
  | [] => .error (.here [] .unfinishedValue)
  | c :: _ =>
    if c.isDigit then
      match Exponent.scan 0 s with
      | .value n s => finishNumber minus sig (if down then -n else n) s
      | .huge s =>
        if sig.digits ≠ 0 ∧ !down then .error (.here s .numberOutOfRange)
        else .ok (.float (signed minus 0), s.dropWhile Char.isDigit)
    else .error (.next s .invalidNumber)

theorem takes_readPower (down : Bool) : Takes Numeral.Finite (readPower minus sig down) := by
  intro s n rest h
  cases s with
  | nil => cases h
  | cons c s =>
    have suffix := Exponent.rest_scan 0 (c :: s)
    have append {tail} (ends : Delimited tail) := Exponent.scan_append ends 0 (c :: s)
    simp only [readPower, List.cons_append] at h append ⊢
    split at h
    · next digit =>
      cases scan : Exponent.scan 0 (c :: s) with
      | value k behind =>
        simp only [scan, Exponent.rest, Exponent.append] at h suffix append
        obtain ⟨finite, front, more⟩ := takes_finishNumber minus small _ _ _ _ h
        refine ⟨finite, front.trans suffix, fun ends => ?_⟩
        simp only [digit, if_true, append ends]
        exact more ends
      | huge behind =>
        simp only [scan, Exponent.rest, Exponent.append] at h suffix append
        split at h <;> cases h
        next zero =>
        refine ⟨finite_signed (by decide), (List.dropWhile_suffix _).trans suffix, fun ends => ?_⟩
        simp only [digit, if_true, append ends, if_neg zero, ends.dropWhile_append]
    · cases h

omit small in
theorem readExponent_unsigned {c : Char} (plus : c ≠ '+') (down : c ≠ '-') (s : List Char) :
    readExponent minus sig (c :: s) = readPower minus sig false (c :: s) := by
  unfold readExponent
  split
  next heq =>
  split at heq
  · next same => exact absurd (List.cons.inj same).1 plus
  · next same => exact absurd (List.cons.inj same).1 down
  · cases heq
    rfl

theorem takes_readExponent : Takes Numeral.Finite (readExponent minus sig) := by
  intro s
  cases s with
  | nil => exact fun _ _ h => nomatch h
  | cons c s =>
    by_cases plus : c = '+'
    · exact plus ▸ (takes_readPower minus small false s).behind ['+'] fun _ => rfl
    by_cases down : c = '-'
    · exact down ▸ (takes_readPower minus small true s).behind ['-'] fun _ => rfl
    exact (takes_readPower minus small false (c :: s)).behind []
      fun _ => readExponent_unsigned minus plus down _

theorem takes_readScale : Takes Numeral.Finite (readScale minus sig) := by
  intro s
  match s with
  | [] =>
    refine (takes_finishNumber minus small 0 []).behind [] fun {tail} ends => ?_
    cases tail with
    | nil => rfl
    | cons c tail => obtain rfl | rfl | rfl := ends <;> rfl
  | c :: s =>
    by_cases lower : c = 'e'
    · exact lower ▸ (takes_readExponent minus small s).behind ['e'] fun _ => rfl
    by_cases upper : c = 'E'
    · exact upper ▸ (takes_readExponent minus small s).behind ['E'] fun _ => rfl
    exact (takes_finishNumber minus small 0 (c :: s)).behind [] fun _ => by
      simp [readScale, lower, upper]

omit small in
theorem readFraction_eq {s : List Char} (digits : s.takeWhile Char.isDigit ≠ []) :
    readFraction minus sig s =
      readScale minus (sig.addFraction (s.takeWhile Char.isDigit)) (s.dropWhile Char.isDigit) := by
  unfold readFraction
  split
  · next none => exact absurd none digits
  · next none => exact absurd none digits
  · rfl

theorem takes_readFraction : Takes Numeral.Finite (readFraction minus sig) := by
  intro s n rest h
  have digits : s.takeWhile Char.isDigit ≠ [] := by
    intro none
    unfold readFraction at h
    split at h
    · cases h
    · cases h
    · next some _ => exact some none
  rw [readFraction_eq minus digits] at h
  obtain ⟨finite, front, more⟩ :=
    takes_readScale minus (Significand.digits_addFraction small _) _ _ _ h
  refine ⟨finite, front.trans (List.dropWhile_suffix _), fun ends => ?_⟩
  have same := ends.takeWhile_append s
  rw [readFraction_eq minus (by rwa [same]), same, ends.dropWhile_append]
  exact more ends

omit small in
/-- What follows the digits before the point. -/
def readAfterWhole (minus : Bool) (sig : Significand) : Reader Numeral
  | '.' :: s => readFraction minus sig s
  | 'e' :: s => readExponent minus sig s
  | 'E' :: s => readExponent minus sig s
  | s => if sig.full then finishNumber minus sig 0 s else .ok (.ofDigits minus sig.digits, s)

theorem takes_whole : Takes Numeral.Finite fun s =>
    if sig.full then finishNumber minus sig 0 s else .ok (.ofDigits minus sig.digits, s) := by
  intro s n rest h
  by_cases full : sig.full
  · simp only [if_pos full] at h ⊢
    exact takes_finishNumber minus small 0 s n rest h
  · simp only [if_neg full] at h ⊢
    cases h
    exact ⟨finite_ofDigits small, List.suffix_rfl, fun _ => rfl⟩

theorem takes_readAfterWhole : Takes Numeral.Finite (readAfterWhole minus sig) := by
  intro s
  match s with
  | [] =>
    refine (takes_whole minus small []).behind [] fun {tail} ends => ?_
    cases tail with
    | nil => rfl
    | cons c tail => obtain rfl | rfl | rfl := ends <;> rfl
  | c :: s =>
    by_cases point : c = '.'
    · exact point ▸ (takes_readFraction minus small s).behind ['.'] fun _ => rfl
    by_cases lower : c = 'e'
    · exact lower ▸ (takes_readExponent minus small s).behind ['e'] fun _ => rfl
    by_cases upper : c = 'E'
    · exact upper ▸ (takes_readExponent minus small s).behind ['E'] fun _ => rfl
    exact (takes_whole minus small (c :: s)).behind [] fun _ => by
      simp [readAfterWhole, point, lower, upper]

end

theorem readMagnitude_cons (minus : Bool) (c : Char) (s : List Char) :
    readMagnitude minus (c :: s) =
      if !c.isDigit then .error (.next (c :: s) .invalidNumber)
      else if c = '0' ∧ s.head?.any Char.isDigit then .error (.next s .invalidNumber)
      else readAfterWhole minus (.ofWhole ((c :: s).takeWhile Char.isDigit))
        ((c :: s).dropWhile Char.isDigit) := rfl

theorem takes_readMagnitude (minus : Bool) : Takes Numeral.Finite (readMagnitude minus) := by
  intro s n rest h
  cases s with
  | nil => cases h
  | cons c s =>
    rw [readMagnitude_cons] at h
    split at h
    · cases h
    split at h
    · cases h
    next digit alone =>
    obtain ⟨finite, front, more⟩ :=
      takes_readAfterWhole minus (Significand.digits_ofWhole _) _ _ _ h
    refine ⟨finite, front.trans (List.dropWhile_suffix _), fun {tail} ends => ?_⟩
    have still : ¬ (c = '0' ∧ (s ++ tail).head?.any Char.isDigit = true) :=
      fun ⟨zero, next⟩ => alone ⟨zero, ends.digit_follows next⟩
    rw [List.cons_append, readMagnitude_cons, if_neg digit, if_neg still, ← List.cons_append,
      ends.takeWhile_append, ends.dropWhile_append]
    exact more ends

/-- A number that is read is finite, stands at the front of the text, and is read as well
when a delimiter follows. -/
theorem takes_readNumber : Takes Numeral.Finite readNumber := by
  intro s
  cases s with
  | nil => exact fun _ _ h => nomatch h
  | cons c s =>
    by_cases sign : c = '-'
    · exact sign ▸ (takes_readMagnitude true s).behind ['-'] fun _ => rfl
    refine (takes_readMagnitude false (c :: s)).behind [] fun _ => ?_
    unfold readNumber
    split
    · next heq => exact absurd (List.cons.inj heq).1 sign
    · rfl

end Dataflow.Json
