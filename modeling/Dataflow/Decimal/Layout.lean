import Dataflow.Decimal.Shortest

/-! Decimals laid out as text.

A `Layout` holds the decisions of one way of writing numbers: where plain
notation ends, whether a whole number keeps a point, and which way a tie between
two equally short decimals goes. `Layout.write` selects the shortest digits and
lays them out. -/
namespace Dataflow.Decimal

/-- A way of writing numbers. With `d.ddd * 10 ^ e`, the exponents `e` from
`plainFrom` to `plainTo` are written without an exponent, and all of them when
there are no such bounds. -/
structure Layout where
  plain : Option (Int × Int)
  pointZero : Bool
  tie : Tie

/-- Whether the leading digit's exponent is written in plain notation. -/
def Layout.isPlain (layout : Layout) (e : Int) : Bool :=
  match layout.plain with
  | none => true
  | some (first, last) => decide (first ≤ e) && decide (e ≤ last)

def zeros (n : Nat) : List Char := List.replicate n '0'

/-- Digits whose first one stands for `10 ^ e`, in plain notation. -/
def Layout.plainText (layout : Layout) (digits : List Char) (e : Int) : List Char :=
  if e < 0 then '0' :: '.' :: (zeros (-e - 1).toNat ++ digits)
  else
    let whole := e.toNat + 1
    match digits.drop whole with
    | [] => digits ++ zeros (whole - digits.length) ++ (if layout.pointZero then ['.', '0'] else [])
    | fraction => digits.take whole ++ '.' :: fraction

/-- The same digits with an exponent, whose sign is always written. -/
def exponentText (digits : List Char) (e : Int) : List Char :=
  let sign := if e < 0 then '-' else '+'
  let exponent := 'e' :: sign :: Nat.toDigits 10 e.natAbs
  match digits with
  | [] => exponent
  | [d] => d :: exponent
  | d :: fraction => d :: '.' :: (fraction ++ exponent)

/-- A decimal laid out; zeros at the end of its digits are not written. -/
def Layout.decimalText (layout : Layout) (d : Scientific) : List Char :=
  let all := Nat.toDigits 10 d.digits
  let e := d.exponent + all.length - 1
  let digits := (all.reverse.dropWhile (· == '0')).reverse
  if digits.isEmpty then layout.plainText ['0'] 0
  else if layout.isPlain e then layout.plainText digits e
  else exponentText digits e

/-- A number written with the fewest digits that read back. -/
def Layout.write (layout : Layout) (x : Float) : List Char :=
  let sign := if negative x then ['-'] else []
  if x.isNaN then "NaN".toList
  else if x.isInf then sign ++ "inf".toList
  else sign ++ layout.decimalText ((Binary.ofFloat x).shortest layout.tie)

/-- The numbers of a saved document: plain between `0.00001` and below `1e+16`,
and always with a point there. -/
def stored : Layout where
  plain := some (-5, 15)
  pointZero := true
  tie := .toEven

/-- The numbers of a message: never an exponent, and no point in a whole number. -/
def spoken : Layout where
  plain := none
  pointZero := false
  tie := .up

example : stored.write 1.0 = "1.0".toList := by decide +kernel
example : stored.write (-0.0) = "-0.0".toList := by decide +kernel
example : stored.write 1e15 = "1000000000000000.0".toList := by decide +kernel
example : stored.write 1e16 = "1e+16".toList := by decide +kernel
example : stored.write 1.5e300 = "1.5e+300".toList := by decide +kernel
example : stored.write 0.00001 = "0.00001".toList := by decide +kernel
example : stored.write 1e-6 = "1e-6".toList := by decide +kernel
example : stored.write 5e-324 = "5e-324".toList := by decide +kernel
example : stored.write 123.456 = "123.456".toList := by decide +kernel
example : spoken.write 2.0 = "2".toList := by decide +kernel
example : spoken.write 0.7 = "0.7".toList := by decide +kernel
example : spoken.write 1e21 = "1000000000000000000000".toList := by decide +kernel
example : spoken.write 1e-7 = "0.0000001".toList := by decide +kernel
example : spoken.write (-0.0) = "-0".toList := by decide +kernel

end Dataflow.Decimal
