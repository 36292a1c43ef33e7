import Dataflow.Json.Token
import Dataflow.Decimal.Literal

/-! Numbers of a JSON text, from their sign or first digit.

A number without point and exponent is an integer while it fits in 64 bits, with
a sign if it has one; all others are floating-point numbers, and so is `-0`. -/
namespace Dataflow.Json

open Decimal (Significand)

inductive Numeral where
  | integer (n : Int)
  | float (x : Float)

def Numeral.toFloat : Numeral → Float
  | .integer n => Float.ofInt n
  | .float x => x

/-- How a message names the number. -/
def Numeral.found : Numeral → Found
  | .integer n => .integer n
  | .float x => .float x

def signed (minus : Bool) (x : Float) : Float := if minus then -x else x

/-- The number of a literal without point and exponent. -/
def Numeral.ofDigits (minus : Bool) (digits : Nat) : Numeral :=
  if !minus then .integer digits
  else if digits = 0 ∨ Nat.pow 2 63 < digits then .float (-Float.ofNat digits)
  else .integer (-digits)

/-- The number of a literal that ends before `s`. -/
def finishNumber (minus : Bool) (sig : Significand) (exponent : Int) :
    Reader Numeral := fun s =>
  match Decimal.value? sig.digits (sig.exponent + exponent) with
  | some x => .ok (.float (signed minus x), s)
  | none => .error (.here s .numberOutOfRange)

/-- An exponent that fits in 31 bits, or the text behind the digit with which it
no longer does. -/
inductive Exponent where
  | value (n : Nat) (rest : List Char)
  | huge (rest : List Char)

def Exponent.scan (n : Nat) : List Char → Exponent
  | [] => .value n []
  | c :: s =>
    if c.isDigit then
      let n := n * 10 + Significand.digit c
      if Nat.pow 2 31 ≤ n then .huge s else Exponent.scan n s
    else .value n (c :: s)

/-- Reads an exponent from behind its letter. -/
def readExponent (minus : Bool) (sig : Significand) : Reader Numeral := fun s =>
  let (down, s) : Bool × List Char := match s with
    | '+' :: s => (false, s)
    | '-' :: s => (true, s)
    | s => (false, s)
  match s with
  | [] => .error (.here [] .unfinishedValue)
  | c :: _ =>
    if c.isDigit then
      match Exponent.scan 0 s with
      | .value n s => finishNumber minus sig (if down then -n else n) s
      | .huge s =>
        if sig.digits ≠ 0 ∧ !down then .error (.here s .numberOutOfRange)
        else .ok (.float (signed minus 0), s.dropWhile Char.isDigit)
    else .error (.next s .invalidNumber)

/-- Reads an exponent if there is one. -/
def readScale (minus : Bool) (sig : Significand) : Reader Numeral := fun s =>
  match s with
  | 'e' :: s => readExponent minus sig s
  | 'E' :: s => readExponent minus sig s
  | s => finishNumber minus sig 0 s

/-- Reads a number's digits behind the point, and its exponent. -/
def readFraction (minus : Bool) (sig : Significand) : Reader Numeral := fun s =>
  match s.takeWhile Char.isDigit, s with
  | [], [] => .error (.next [] .unfinishedValue)
  | [], s => .error (.next s .invalidNumber)
  | digits, s => readScale minus (sig.addFraction digits) (s.dropWhile Char.isDigit)

/-- Reads a number from its first digit. -/
def readMagnitude (minus : Bool) : Reader Numeral := fun s =>
  match s with
  | [] => .error (.here [] .unfinishedValue)
  | c :: rest =>
    if !c.isDigit then .error (.next s .invalidNumber)
    else if c = '0' ∧ (rest.head?.any Char.isDigit) then .error (.next rest .invalidNumber)
    else
      let sig := Significand.ofWhole (s.takeWhile Char.isDigit)
      match s.dropWhile Char.isDigit with
      | '.' :: s => readFraction minus sig s
      | 'e' :: s => readExponent minus sig s
      | 'E' :: s => readExponent minus sig s
      | s => if sig.full then finishNumber minus sig 0 s else .ok (.ofDigits minus sig.digits, s)

/-- Whether a character begins a number. -/
def startsNumber (c : Char) : Bool := c == '-' || c.isDigit

/-- Reads a number from its sign or first digit. -/
def readNumber : Reader Numeral
  | '-' :: s => readMagnitude true s
  | s => readMagnitude false s

/-- Skips an exponent from behind its letter. -/
def skipExponent (s : List Char) : Except Fault (List Char) :=
  let s := match s with
    | '+' :: s => s
    | '-' :: s => s
    | s => s
  if s.head?.any Char.isDigit then .ok (s.dropWhile Char.isDigit)
  else .error (.next s .invalidNumber)

def skipScale (s : List Char) : Except Fault (List Char) :=
  match s with
  | 'e' :: s => skipExponent s
  | 'E' :: s => skipExponent s
  | s => .ok s

/-- Skips a number from its first digit: it may have any size. -/
def skipMagnitude (s : List Char) : Except Fault (List Char) :=
  match s with
  | [] => .error (.next [] .invalidNumber)
  | c :: rest =>
    if !c.isDigit then .error (.next s .invalidNumber)
    else if c = '0' ∧ (rest.head?.any Char.isDigit) then .error (.next rest .invalidNumber)
    else
      match s.dropWhile Char.isDigit with
      | '.' :: s =>
        if s.head?.any Char.isDigit then skipScale (s.dropWhile Char.isDigit)
        else .error (.next s .invalidNumber)
      | s => skipScale s

/-- Skips a number from its sign or first digit. -/
def skipNumber : List Char → Except Fault (List Char)
  | '-' :: s => skipMagnitude s
  | s => skipMagnitude s

end Dataflow.Json
