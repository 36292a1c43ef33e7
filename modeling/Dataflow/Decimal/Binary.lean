/-! The exact value of a binary floating-point number.

A finite number is a sign and a magnitude `mantissa * 2 ^ exponent`. The reals
that round to it form an interval around it, from halfway to the neighbour below
to halfway to the neighbour above; the ends belong to it when the mantissa is
even (`readsBack`). Everything here is natural-number arithmetic. -/
namespace Dataflow.Decimal

/-- A magnitude `mantissa * 2 ^ exponent`. Just above a power of two the
neighbour below is half as far away as the neighbour above. -/
structure Binary where
  mantissa : Nat
  exponent : Int
  narrowBelow : Bool
deriving DecidableEq, Repr

/-- The number `digits * 10 ^ exponent`. -/
structure Scientific where
  digits : Nat
  exponent : Int
deriving DecidableEq, Repr

/-- The magnitude of a finite number. An infinity or a NaN has none; its bits are
read as if it were finite. -/
def Binary.ofFloat (x : Float) : Binary :=
  let bits := x.toBits.toNat
  let fraction := bits % Nat.pow 2 52
  match bits / Nat.pow 2 52 % Nat.pow 2 11 with
  | 0 => ⟨fraction, -1074, false⟩
  | biased + 1 => ⟨Nat.pow 2 52 + fraction, (biased : Int) - 1074, fraction == 0 && biased != 0⟩

/-- Whether the sign bit is set: so it is for `-0.0`. -/
def negative (x : Float) : Bool := x.toBits.toNat / Nat.pow 2 63 == 1

/-- Order of `a * 10 ^ i` and `n * 2 ^ j`, by cross-multiplication. -/
def compareScaled (a : Nat) (i : Int) (n : Nat) (j : Int) : Ordering :=
  compare (a * Nat.pow 10 i.toNat * Nat.pow 2 (-j).toNat)
    (n * Nat.pow 2 j.toNat * Nat.pow 10 (-i).toNat)

/-- Whether `d` lies among the reals that round to `x`. -/
def Binary.readsBack (x : Binary) (d : Scientific) : Bool :=
  let low := if x.narrowBelow then 4 * x.mantissa - 1 else 4 * x.mantissa - 2
  let high := 4 * x.mantissa + 2
  let ends := x.mantissa % 2 == 0
  let below := compareScaled d.digits d.exponent low (x.exponent - 2)
  let above := compareScaled d.digits d.exponent high (x.exponent - 2)
  (below == .gt || (ends && below == .eq)) && (above == .lt || (ends && above == .eq))

example : Binary.ofFloat 1.0 = ⟨2 ^ 52, -52, true⟩ := by decide +kernel
example : Binary.ofFloat 5e-324 = ⟨1, -1074, false⟩ := by decide +kernel
example : (Binary.ofFloat 1.0).readsBack ⟨(2 ^ 53 + 1) * 5 ^ 53, -53⟩ = true := by decide +kernel
example : (Binary.ofFloat 1.0).readsBack ⟨(2 ^ 53 + 1) * 5 ^ 53 + 1, -53⟩ = false := by
  decide +kernel
example : (Binary.ofFloat 1.0).readsBack ⟨(2 ^ 54 - 1) * 5 ^ 54 - 1, -54⟩ = false := by
  decide +kernel

end Dataflow.Decimal
