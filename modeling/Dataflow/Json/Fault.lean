import Dataflow.Decimal.Layout
import Dataflow.Text.Quoted

/-! What can be wrong with a JSON text, and where.

A fault has a cause and, as a rule, a place, counted in bytes of the text: either
the point that reading has reached (`Fault.here`) or the character that is next
(`Fault.next`). A record that lacks a member has no place of its own
(`Fault.adrift`); it gets one from the array or object around it, once the rest of
that has been looked at (`Fault.anchor`). -/
namespace Dataflow.Json

/-- What stands in a text where something else was expected. -/
inductive Found where
  | null
  | bool (b : Bool)
  | integer (n : Int)
  | float (x : Float)
  | string (s : String)
  | sequence
  | map

inductive Cause where
  | unfinishedValue
  | unfinishedList
  | unfinishedObject
  | unfinishedString
  | expectedColon
  | expectedListCommaOrEnd
  | expectedObjectCommaOrEnd
  | expectedWord
  | expectedValue
  | trailingComma
  | trailingCharacters
  | keyNotString
  | invalidNumber
  | numberOutOfRange
  | invalidEscape
  | controlCharacter
  | loneSurrogate
  | unfinishedSurrogate
  | tooDeep
  | wrongType (found : Found) (expected : String)
  | wrongValue (found : Found) (expected : String)
  | wrongLength (length : Nat) (expected : String)
  | missingField (key : String)
  | duplicateField (key : String)
  | unknownVariant (name : String) (known : List String)
  | noVariant (type : String)

/-- A name as messages mark it. -/
def ticked (s : String) : String := "`" ++ s ++ "`"

def Found.text : Found → String
  | .null => "null"
  | .bool true => "boolean `true`"
  | .bool false => "boolean `false`"
  | .integer n => "integer " ++ ticked (toString n)
  | .float x => "floating point " ++ ticked (String.ofList (Decimal.stored.write x))
  | .string s => "string " ++ Text.quoted s
  | .sequence => "sequence"
  | .map => "map"

/-- The names of an enumeration, as a message lists them. -/
def oneOf : List String → String
  | [] => "there are no variants"
  | [a] => "expected " ++ ticked a
  | [a, b] => "expected " ++ ticked a ++ " or " ++ ticked b
  | names => "expected one of " ++ ", ".intercalate (names.map ticked)

def Cause.message : Cause → String
  | .unfinishedValue => "EOF while parsing a value"
  | .unfinishedList => "EOF while parsing a list"
  | .unfinishedObject => "EOF while parsing an object"
  | .unfinishedString => "EOF while parsing a string"
  | .expectedColon => "expected `:`"
  | .expectedListCommaOrEnd => "expected `,` or `]`"
  | .expectedObjectCommaOrEnd => "expected `,` or `\x7d`"
  | .expectedWord => "expected ident"
  | .expectedValue => "expected value"
  | .trailingComma => "trailing comma"
  | .trailingCharacters => "trailing characters"
  | .keyNotString => "key must be a string"
  | .invalidNumber => "invalid number"
  | .numberOutOfRange => "number out of range"
  | .invalidEscape => "invalid escape"
  | .controlCharacter => "control character (\\u0000-\\u001F) found while parsing a string"
  | .loneSurrogate => "lone leading surrogate in hex escape"
  | .unfinishedSurrogate => "unexpected end of hex escape"
  | .tooDeep => "recursion limit exceeded"
  | .wrongType found expected => "invalid type: " ++ found.text ++ ", expected " ++ expected
  | .wrongValue found expected => "invalid value: " ++ found.text ++ ", expected " ++ expected
  | .wrongLength length expected => s!"invalid length {length}, expected {expected}"
  | .missingField key => "missing field " ++ ticked key
  | .duplicateField key => "duplicate field " ++ ticked key
  | .unknownVariant name known => "unknown variant " ++ ticked name ++ ", " ++ oneOf known
  | .noVariant type => s!"data did not match any variant of untagged enum {type}"

/-- The length of a text in bytes. -/
def bytes (s : List Char) : Nat := s.foldl (fun n c => n + c.utf8Size) 0

/-- Where a fault lies: as many bytes before the end of the text, or nowhere yet,
with the text that was left when it arose. -/
inductive Place where
  | before (left : Nat)
  | adrift (rest : List Char)

structure Fault where
  cause : Cause
  place : Place

/-- A fault at the point reached, with `rest` still to be read. -/
def Fault.here (rest : List Char) (cause : Cause) : Fault := ⟨cause, .before (bytes rest)⟩

/-- A fault one byte further, or at the end of the text. -/
def Fault.next (rest : List Char) (cause : Cause) : Fault := ⟨cause, .before (bytes rest - 1)⟩

/-- A fault without a place. -/
def Fault.adrift (rest : List Char) (cause : Cause) : Fault := ⟨cause, .adrift rest⟩

/-- Gives a fault that is adrift the place that closing its container reaches. -/
def Fault.anchor (close : List Char → List Char) (fault : Fault) : Fault :=
  match fault.place with
  | .before _ => fault
  | .adrift rest => .here (close rest) fault.cause

/-- A point in a text: lines count from one, columns are bytes into the line. -/
structure Location where
  line : Nat
  column : Nat
deriving DecidableEq, Repr

/-- The point `n` bytes into a text that begins at `here`. -/
def Location.advance (here : Location) : List Char → Nat → Location
  | [], _ => here
  | c :: rest, n =>
    if n < c.utf8Size then { here with column := here.column + n }
    else if c = '\n' then Location.advance ⟨here.line + 1, 0⟩ rest (n - 1)
    else Location.advance ⟨here.line, here.column + c.utf8Size⟩ rest (n - c.utf8Size)

/-- Why a text could not be read, with the point if there is one. -/
structure Error where
  cause : Cause
  location : Option Location

def Error.message (e : Error) : String :=
  match e.location with
  | none => e.cause.message
  | some p => s!"{e.cause.message} at line {p.line} column {p.column}"

/-- The error that a fault is in the whole text. -/
def Fault.toError (text : List Char) (fault : Fault) : Error :=
  match fault.place with
  | .adrift _ => ⟨fault.cause, none⟩
  | .before left => ⟨fault.cause, some (Location.advance ⟨1, 0⟩ text (bytes text - left))⟩

example : Location.advance ⟨1, 0⟩ "a\né1".toList 4 = ⟨2, 2⟩ := by decide
example : Location.advance ⟨1, 0⟩ "a\né1".toList 3 = ⟨2, 1⟩ := by decide
example : Location.advance ⟨1, 0⟩ "a\n".toList 2 = ⟨2, 0⟩ := by decide

end Dataflow.Json
