import Dataflow.Decimal.Binary

/-! The fewest decimal digits that read back as a number.

For one digit, two digits and so on, `shortest` looks at the value's two
neighbours on the grid of decimals with that many digits. The first grid with a
neighbour that reads back wins; of two such neighbours the nearer one is taken,
and a tie goes as the caller says. -/
namespace Dataflow.Decimal

/-- Where an exact tie between two decimals goes. -/
inductive Tie where
  | toEven
  | up
deriving DecidableEq, Repr

/-- The least power of ten above a magnitude that is not zero: an estimate from
the binary logarithm, put right by one comparison. -/
def Binary.scale (x : Binary) : Int :=
  let estimate := ((x.mantissa.log2 : Int) + x.exponent) * 30103 / 100000 + 1
  if compareScaled 1 estimate x.mantissa x.exponent == .gt then estimate else estimate + 1

/-- The neighbour of `x` on the grid `10 ^ grid` that reads back, if one does. -/
def Binary.neighbour? (tie : Tie) (x : Binary) (grid : Int) : Option Scientific :=
  let numerator := x.mantissa * Nat.pow 2 x.exponent.toNat * Nat.pow 10 (-grid).toNat
  let denominator := Nat.pow 2 (-x.exponent).toNat * Nat.pow 10 grid.toNat
  let below : Scientific := ⟨numerator / denominator, grid⟩
  let above : Scientific := ⟨numerator / denominator + 1, grid⟩
  match x.readsBack below, x.readsBack above with
  | true, true =>
    match compare (2 * numerator) ((2 * below.digits + 1) * denominator), tie with
    | .lt, _ => some below
    | .gt, _ => some above
    | .eq, .up => some above
    | .eq, .toEven => some (if below.digits % 2 == 0 then below else above)
  | true, false => some below
  | false, true => some above
  | false, false => none

/-- The value itself as a decimal. -/
def Binary.exact (x : Binary) : Scientific :=
  if 0 ≤ x.exponent then ⟨x.mantissa * Nat.pow 2 x.exponent.toNat, 0⟩
  else ⟨x.mantissa * Nat.pow 5 (-x.exponent).toNat, x.exponent⟩

/-- The decimal with the fewest digits that reads back. -/
def Binary.shortest (tie : Tie) (x : Binary) : Scientific :=
  if x.mantissa == 0 then ⟨0, 0⟩
  else
    let scale := x.scale
    ((List.range 17).findSome? fun (n : Nat) => x.neighbour? tie (scale - 1 - n)).getD x.exact

example : (Binary.ofFloat 0.1).shortest .toEven = ⟨1, -1⟩ := by decide +kernel
example : (Binary.ofFloat 1e23).shortest .toEven = ⟨10, 22⟩ := by decide +kernel
example : (Binary.ofFloat 5e-324).shortest .toEven = ⟨5, -324⟩ := by decide +kernel
example : (Binary.ofFloat 2.98023223876953125e-8).shortest .toEven = ⟨29802322387695312, -24⟩ := by
  decide +kernel
example : (Binary.ofFloat 2.98023223876953125e-8).shortest .up = ⟨29802322387695313, -24⟩ := by
  decide +kernel

end Dataflow.Decimal
