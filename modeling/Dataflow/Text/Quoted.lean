import Dataflow.Text.Printable

/-! A text between quotes, as messages show it.

Quotes, backslashes and the common controls are written with a backslash, and
what is not printable by its number in braces. -/
namespace Dataflow.Text

def quotedChar (c : Char) : List Char :=
  match c with
  | '\x00' => ['\\', '0']
  | '\t' => ['\\', 't']
  | '\r' => ['\\', 'r']
  | '\n' => ['\\', 'n']
  | '\\' => ['\\', '\\']
  | '"' => ['\\', '"']
  | c =>
    if printable c then [c]
    else '\\' :: 'u' :: '{' :: (Nat.toDigits 16 c.toNat ++ ['}'])

/-- The text between double quotes. -/
def quoted (s : String) : String :=
  String.ofList ('"' :: (s.toList.flatMap quotedChar ++ ['"']))

example : quoted "a\"b\nc" = "\"a\\\"b\\nc\"" := by decide
example : quoted "e\u0301" = "\"e\\u\x7b301\x7d\"" := by decide

end Dataflow.Text
