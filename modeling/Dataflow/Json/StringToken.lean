import Dataflow.Json.Token

/-! Strings of a JSON text, from behind their opening quote.

Characters beyond the sixteen-bit plane are escaped as two halves, the leading
one first; `scanString` carries a leading half until its other half follows.
A string that is only skipped (`skipString`) need not pair its halves. -/
namespace Dataflow.Json

/-- The character that a letter behind a backslash stands for. -/
def unescape? : Char → Option Char
  | '"' => some '"'
  | '\\' => some '\\'
  | '/' => some '/'
  | 'b' => some '\x08'
  | 'f' => some '\x0c'
  | 'n' => some '\n'
  | 'r' => some '\r'
  | 't' => some '\t'
  | _ => none

def hexDigit? (c : Char) : Option Nat :=
  if '0' ≤ c ∧ c ≤ '9' then some (c.toNat - '0'.toNat)
  else if 'a' ≤ c ∧ c ≤ 'f' then some (c.toNat - 'a'.toNat + 10)
  else if 'A' ≤ c ∧ c ≤ 'F' then some (c.toNat - 'A'.toNat + 10)
  else none

/-- The number that four hexadecimal digits write. -/
def hexUnit? (a b c d : Char) : Option Nat := do
  let a ← hexDigit? a
  let b ← hexDigit? b
  let c ← hexDigit? c
  let d ← hexDigit? d
  pure (((a * 16 + b) * 16 + c) * 16 + d)

/-- The fault of a text that should begin with four hexadecimal digits: it lies
behind four bytes, or at the end if there are fewer. -/
def hexFault (s : List Char) : Fault :=
  if bytes s < 4 then .here [] .unfinishedString
  else ⟨.invalidEscape, .before (bytes s - 4)⟩

/-- What a sixteen-bit unit is, given the leading half that may stand before it. -/
inductive Unit16 where
  | char (c : Char)
  | leading (half : Nat)
  | lone

def Unit16.classify (leading : Option Nat) (n : Nat) : Unit16 :=
  let trailing := decide (0xDC00 ≤ n ∧ n ≤ 0xDFFF)
  match leading with
  | some half =>
    if trailing then .char (Char.ofNat (0x10000 + (half - 0xD800) * 0x400 + (n - 0xDC00)))
    else .lone
  | none =>
    if trailing then .lone
    else if 0xD800 ≤ n ∧ n ≤ 0xDBFF then .leading n
    else .char (Char.ofNat n)

/-- Reads on to the closing quote; `seen` holds what was read, last first. -/
def scanString (leading : Option Nat) (seen : List Char) : Reader String
  | [] => .error (.here [] .unfinishedString)
  | '\\' :: s =>
    match s with
    | [] => .error (.here [] .unfinishedString)
    | 'u' :: s =>
      match s with
      | a :: b :: c :: d :: s =>
        match hexUnit? a b c d with
        | none => .error (hexFault (a :: b :: c :: d :: s))
        | some n =>
          match Unit16.classify leading n with
          | .char c => scanString none (c :: seen) s
          | .leading half => scanString (some half) seen s
          | .lone => .error (.here s .loneSurrogate)
      | s => .error (hexFault s)
    | letter :: s =>
      match leading, unescape? letter with
      | some _, _ => .error (.next (letter :: s) .unfinishedSurrogate)
      | none, some c => scanString none (c :: seen) s
      | none, none => .error (.next (letter :: s) .invalidEscape)
  | c :: s =>
    match leading with
    | some _ => .error (.next (c :: s) .unfinishedSurrogate)
    | none =>
      if c = '"' then .ok (String.ofList seen.reverse, s)
      else if c.toNat < 0x20 then .error (.here s .controlCharacter)
      else scanString none (c :: seen) s

/-- Reads a string up to its closing quote. -/
def readString : Reader String := scanString none []

/-- Skips a string up to its closing quote. -/
def skipString : List Char → Except Fault (List Char)
  | [] => .error (.here [] .unfinishedString)
  | '\\' :: s =>
    match s with
    | [] => .error (.here [] .unfinishedString)
    | 'u' :: s =>
      match s with
      | a :: b :: c :: d :: s =>
        if (hexUnit? a b c d).isSome then skipString s
        else .error (hexFault (a :: b :: c :: d :: s))
      | s => .error (hexFault s)
    | letter :: s =>
      if (unescape? letter).isSome then skipString s
      else .error (.next (letter :: s) .invalidEscape)
  | c :: s =>
    if c = '"' then .ok s
    else if c.toNat < 0x20 then .error (.here (c :: s) .controlCharacter)
    else skipString s

end Dataflow.Json
