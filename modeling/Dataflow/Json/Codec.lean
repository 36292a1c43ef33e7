import Dataflow.Entries
import Dataflow.Json.Document

/-! Reading values of a type from JSON text, and writing them.

A `Codec` reads a value from the front of a text, given how many lists and objects
may still be nested, and turns a value into JSON. Spaces before a value are
skipped. A value of another type is read over before it is reported, unless it is
a list or an object (`findValue`). -/
namespace Dataflow.Json

structure Codec (α : Type) where
  read : Nat → Reader α
  encode : α → Value

/-- What stands at the front of a text. -/
def findValue : Reader Found := fun s =>
  match skipSpace s with
  | [] => .error (.next [] .unfinishedValue)
  | 'n' :: s => readWord .null ['u', 'l', 'l'] s
  | 't' :: s => readWord (.bool true) ['r', 'u', 'e'] s
  | 'f' :: s => readWord (.bool false) ['a', 'l', 's', 'e'] s
  | '"' :: s => do
    let (text, s) ← readString s
    .ok (.string text, s)
  | '[' :: s => .ok (.sequence, '[' :: s)
  | '{' :: s => .ok (.map, '{' :: s)
  | c :: s =>
    if startsNumber c then do
      let (n, s) ← readNumber (c :: s)
      .ok (n.found, s)
    else .error (.next (c :: s) .expectedValue)

/-- Reports what stands where something else was expected. -/
def mismatch {α : Type} (expected : String) : Reader α := fun s => do
  let (found, s) ← findValue s
  .error (.here s (.wrongType found expected))

/-- Reads the contents of a list or object that may still be opened. -/
def inside {α : Type} (b : Bracket) (depth : Nat) (contents : Nat → Reader α) : Reader α := fun s =>
  match depth with
  | 0 => .error (.next (b.opening :: s) .tooDeep)
  | depth + 1 => b.close (contents depth s)

namespace Codec

variable {α β : Type}

/-- The same texts for another type. -/
def imap (wrap : α → β) (unwrap : β → α) (c : Codec α) : Codec β where
  read depth s := do
    let (a, s) ← c.read depth s
    .ok (wrap a, s)
  encode b := c.encode (unwrap b)

def string : Codec String where
  read _ s :=
    match skipSpace s with
    | '"' :: s => readString s
    | s => mismatch "a string" s
  encode := .string

def bool : Codec Bool where
  read _ s :=
    match skipSpace s with
    | 't' :: s => readWord true ['r', 'u', 'e'] s
    | 'f' :: s => readWord false ['a', 'l', 's', 'e'] s
    | s => mismatch "a boolean" s
  encode := .bool

def number : Codec Float where
  read _ s :=
    match skipSpace s with
    | c :: s =>
      if startsNumber c then do
        let (n, s) ← readNumber (c :: s)
        .ok (n.toFloat, s)
      else mismatch "f64" (c :: s)
    | [] => mismatch "f64" []
  encode := .number

/-- A signed integer of 64 bits, as a floating-point number. -/
def integer : Codec Float where
  read _ s :=
    match skipSpace s with
    | c :: s =>
      if startsNumber c then do
        let (n, s) ← readNumber (c :: s)
        match n with
        | .float x => .error (.here s (.wrongType (.float x) "i64"))
        | .integer n =>
          if n < Nat.pow 2 63 then .ok (Float.ofInt n, s)
          else .error (.here s (.wrongValue (.integer n) "i64"))
      else mismatch "i64" (c :: s)
    | [] => mismatch "i64" []
  encode := .number

/-- A value or `null`. -/
def option (c : Codec α) : Codec (Option α) where
  read depth s :=
    match skipSpace s with
    | 'n' :: s => readWord none ['u', 'l', 'l'] s
    | s => do
      let (a, s) ← c.read depth s
      .ok (some a, s)
  encode
    | none => .null
    | some a => c.encode a

def list (c : Codec α) : Codec (List α) where
  read depth s :=
    match skipSpace s with
    | '[' :: s => do
      let (items, s) ← inside .list depth (fun depth =>
        readItems (fun items s => do
          let (a, s) ← c.read depth s
          .ok (a :: items, s)) []) s
      .ok (items.reverse, s)
    | s => mismatch "a sequence" s
  encode items := .array (items.map c.encode)

/-- Entries under any keys; of a repeated key the last value stays. -/
def entries (c : Codec α) : Codec (Entries α) where
  read depth s :=
    match skipSpace s with
    | '{' :: s =>
      inside .object depth (fun depth =>
        readMembers (fun key all s => do
          let (a, s) ← c.read depth (← readColon s)
          .ok (all.insert key a, s)) []) s
    | s => mismatch "a map" s
  encode all := .object (all.map fun entry => (entry.1, c.encode entry.2))

/-- Reads the name of one of `known`. -/
def readName (name : α → String) (known : List α) (s : List Char) : Except Fault (Parsed α) := do
  let (text, s) ← readString s
  match known.find? fun a => name a = text with
  | some a => .ok (a, s)
  | none => .error (.here s (.unknownVariant text (known.map name)))

/-- Reads the name of one of `known` as the key of an object that has been opened.
The object may not be empty. -/
def readNameKey (name : α → String) (known : List α) (s : List Char) : Except Fault (Parsed α) :=
  match skipSpace s with
  | [] => .error (.next [] .unfinishedObject)
  | '"' :: s => readName name known s
  | '}' :: s => .error (.next ('}' :: s) .expectedValue)
  | s => .error (.next s .keyNotString)

/-- One of the known values by its name, or an object with that name over `null`. -/
def choice (name : α → String) (known : List α) : Codec α where
  read depth s :=
    match skipSpace s with
    | [] => .error (.next [] .unfinishedValue)
    | '"' :: s => readName name known s
    | '{' :: s =>
      match depth with
      | 0 => .error (.next ('{' :: s) .tooDeep)
      | _ + 1 => do
        let (a, s) ← readNameKey name known s
        let ((), s) ← match skipSpace (← readColon s) with
          | 'n' :: s => readWord () ['u', 'l', 'l'] s
          | s => mismatch "unit" s
        match skipSpace s with
        | '}' :: s => .ok (a, s)
        | [] => .error (.here [] .unfinishedObject)
        | s => .error (.here s .expectedValue)
    | s => .error (.next s .expectedValue)
  encode a := .string (name a)

/-- How many lists and objects may be nested in one another. -/
def depthLimit : Nat := 127

/-- Reads a text that holds one value and nothing else but spaces. -/
def decode (c : Codec α) (text : String) : Except Error α :=
  let s := text.toList
  match c.read depthLimit s with
  | .error fault => .error (fault.toError s)
  | .ok (a, rest) =>
    match skipSpace rest with
    | [] => .ok a
    | rest => .error ((Fault.next rest .trailingCharacters).toError s)

end Codec

end Dataflow.Json
