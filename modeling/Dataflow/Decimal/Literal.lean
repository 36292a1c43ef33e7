/-! The value of a written decimal number.

The digits of a literal are collected in a significand of at most 64 bits, and
the digits that no longer fit only move the exponent (`Significand`). The value
is the significand times or divided by a power of ten, in floating-point
arithmetic, so it may differ from the nearest number in its last place; a literal
beyond the largest number has no value (`value?`). -/
namespace Dataflow.Decimal

/-- The number `digits * 10 ^ exponent` as it is collected from a literal; `full`
once a digit did not fit. -/
structure Significand where
  digits : Nat
  exponent : Int
  full : Bool
deriving DecidableEq, Repr

namespace Significand

def zero : Significand := ⟨0, 0, false⟩

def digit (c : Char) : Nat := c.toNat - '0'.toNat

def fits (s : Significand) (c : Char) : Bool :=
  !s.full && decide (s.digits * 10 + digit c < Nat.pow 2 64)

/-- The next digit before the point: one that does not fit counts as a zero. -/
def pushWhole (s : Significand) (c : Char) : Significand :=
  if s.fits c then { s with digits := s.digits * 10 + digit c }
  else { s with exponent := s.exponent + 1, full := true }

/-- The next digit behind the point: one that does not fit is dropped. -/
def pushFraction (s : Significand) (c : Char) : Significand :=
  if s.fits c then { s with digits := s.digits * 10 + digit c, exponent := s.exponent - 1 }
  else { s with full := true }

/-- The significand of the digits before the point. -/
def ofWhole (digits : List Char) : Significand := digits.foldl pushWhole zero

/-- The significand continued by the digits behind the point. Digits dropped
before the point leave room for none behind it unless they fit again. -/
def addFraction (s : Significand) (digits : List Char) : Significand :=
  digits.foldl pushFraction { s with full := false }

end Significand

/-- The power `10 ^ n`, to the nearest number. -/
def power (n : Nat) : Float := Float.ofScientific 1 false n

/-- Division by `10 ^ n` in steps of at most `10 ^ 308`; zero stays zero. -/
def divideByPower (x : Float) (n : Nat) : Float :=
  if n ≤ 308 then x / power n
  else if x == 0 then x
  else divideByPower (x / power 308) (n - 308)
termination_by n

/-- The magnitude of a literal, or none when it is beyond every finite number. -/
def value? (digits : Nat) (exponent : Int) : Option Float :=
  let x := Float.ofNat digits
  if exponent < 0 then some (divideByPower x exponent.natAbs)
  else if exponent ≤ 308 then
    let y := x * power exponent.natAbs
    if y.isInf then none else some y
  else if x == 0 then some x
  else none

end Dataflow.Decimal
