import Dataflow.Decimal.Layout

/-! JSON values and their compact text.

Objects keep their members in order and may repeat a key. Counts are written as
whole numbers and every other number with the digits of `Decimal.stored`; a
number that is not finite is written as `null`. -/
namespace Dataflow.Json

inductive Value where
  | null
  | bool (b : Bool)
  | count (n : Nat)
  | number (x : Float)
  | string (s : String)
  | array (items : List Value)
  | object (members : List (String × Value))

/-- The letter that stands behind a backslash for a character. -/
def escapeLetter? : Char → Option Char
  | '"' => some '"'
  | '\\' => some '\\'
  | '\x08' => some 'b'
  | '\x0c' => some 'f'
  | '\n' => some 'n'
  | '\r' => some 'r'
  | '\t' => some 't'
  | _ => none

/-- A character inside a string: quotes, backslashes and controls are escaped. -/
def escapeChar (c : Char) : List Char :=
  match escapeLetter? c with
  | some letter => ['\\', letter]
  | none =>
    if c.toNat < 0x20 then
      ['\\', 'u', '0', '0', Nat.digitChar (c.toNat / 16), Nat.digitChar (c.toNat % 16)]
    else [c]

def renderString (s : String) : List Char :=
  '"' :: (s.toList.flatMap escapeChar ++ ['"'])

def renderNumber (x : Float) : List Char :=
  if x.isFinite then Decimal.stored.write x else "null".toList

mutual

/-- The text of a value, without spaces. -/
def Value.render : Value → List Char
  | .null => ['n', 'u', 'l', 'l']
  | .bool true => ['t', 'r', 'u', 'e']
  | .bool false => ['f', 'a', 'l', 's', 'e']
  | .count n => Nat.toDigits 10 n
  | .number x => renderNumber x
  | .string s => renderString s
  | .array [] => ['[', ']']
  | .array (v :: vs) => '[' :: (v.render ++ (renderItems vs ++ [']']))
  | .object [] => ['{', '}']
  | .object (m :: ms) => '{' :: (renderMember m ++ (renderMembers ms ++ ['}']))
termination_by structural v => v

/-- The items behind the first one. -/
def renderItems : List Value → List Char
  | [] => []
  | v :: vs => ',' :: (v.render ++ renderItems vs)
termination_by structural vs => vs

/-- The members behind the first one. -/
def renderMembers : List (String × Value) → List Char
  | [] => []
  | m :: ms => ',' :: (renderMember m ++ renderMembers ms)
termination_by structural ms => ms

def renderMember : String × Value → List Char
  | (key, v) => renderString key ++ ':' :: v.render
termination_by structural m => m

end

/-- The text of a value. -/
def Value.text (v : Value) : String := String.ofList v.render

example : (Value.array [.number 1.0, .null, .object [("a\n", .count 2), ("b", .bool true)]]).text =
    "[1.0,null,\x7b\"a\\n\":2,\"b\":true\x7d]" := by decide +kernel
example : (Value.array [.array [], .object [], .number (1.0 / 0.0)]).text =
    "[[],\x7b\x7d,null]" := by decide +kernel

end Dataflow.Json
