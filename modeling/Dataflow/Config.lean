import Dataflow.Json.Codec

/-! What a node is configured with.

A configuration holds values under keys. A value is a truth value, a number, a
text, a list or a map of values, and never `null`: JSON with a `null` anywhere in
it is no such value, even where a repeated key hides it (`ofJson?`). An entry
counts as unset when it is absent or the empty text. -/
namespace Dataflow

inductive ConfigValue where
  | bool (b : Bool)
  | number (x : Float)
  | string (s : String)
  | list (items : List ConfigValue)
  | map (entries : List (String × ConfigValue))

abbrev Config := Entries ConfigValue

namespace ConfigValue

mutual

/-- A value as messages show it. Texts stand between quotes as they are. -/
def display : ConfigValue → List Char
  | bool true => ['t', 'r', 'u', 'e']
  | bool false => ['f', 'a', 'l', 's', 'e']
  | number x => Decimal.spoken.write x
  | string s => '"' :: (s.toList ++ ['"'])
  | list [] => ['[', ']']
  | list (v :: vs) => '[' :: (v.display ++ (displayItems vs ++ [']']))
  | map [] => ['{', '}']
  | map (e :: es) => '{' :: (displayEntry e ++ (displayEntries es ++ ['}']))
termination_by structural v => v

def displayItems : List ConfigValue → List Char
  | [] => []
  | v :: vs => ',' :: ' ' :: (v.display ++ displayItems vs)
termination_by structural vs => vs

def displayEntries : List (String × ConfigValue) → List Char
  | [] => []
  | e :: es => ',' :: ' ' :: (displayEntry e ++ displayEntries es)
termination_by structural es => es

def displayEntry : String × ConfigValue → List Char
  | (key, v) => key.toList ++ ':' :: ' ' :: v.display
termination_by structural e => e

end

def text (v : ConfigValue) : String := String.ofList v.display

mutual

/-- The value that JSON writes, if there is no `null` in it. -/
def ofJson? : Json.Value → Option ConfigValue
  | .null => none
  | .bool b => some (bool b)
  | .count n => some (number (Float.ofNat n))
  | .number x => some (number x)
  | .string s => some (string s)
  | .array items => (ofItems? items).map list
  | .object members => (ofMembers? members).map fun all => map (Entries.ofList all)
termination_by structural v => v

def ofItems? : List Json.Value → Option (List ConfigValue)
  | [] => some []
  | v :: vs => do pure ((← ofJson? v) :: (← ofItems? vs))
termination_by structural vs => vs

def ofMembers? : List (String × Json.Value) → Option (List (String × ConfigValue))
  | [] => some []
  | m :: ms => do pure ((← ofMember? m) :: (← ofMembers? ms))
termination_by structural ms => ms

def ofMember? : String × Json.Value → Option (String × ConfigValue)
  | (key, v) => (ofJson? v).map fun v => (key, v)
termination_by structural m => m

end

mutual

def toJson : ConfigValue → Json.Value
  | bool b => .bool b
  | number x => .number x
  | string s => .string s
  | list items => .array (itemsToJson items)
  | map entries => .object (entriesToJson entries)
termination_by structural v => v

def itemsToJson : List ConfigValue → List Json.Value
  | [] => []
  | v :: vs => v.toJson :: itemsToJson vs
termination_by structural vs => vs

def entriesToJson : List (String × ConfigValue) → List (String × Json.Value)
  | [] => []
  | e :: es => entryToJson e :: entriesToJson es
termination_by structural es => es

def entryToJson : String × ConfigValue → String × Json.Value
  | (key, v) => (key, v.toJson)
termination_by structural e => e

end

/-- A value is read as any JSON first, and then has to be free of `null`. -/
def codec : Json.Codec ConfigValue where
  read depth s := do
    let (json, s) ← Json.readValue depth s
    match ofJson? json with
    | some v => .ok (v, s)
    | none => .error (.adrift s (.noVariant "ConfigValue"))
  encode := toJson

/-- The name of the value's kind. -/
def kind : ConfigValue → String
  | bool _ => "bool"
  | number _ => "number"
  | string _ => "string"
  | list _ => "list"
  | map _ => "map"

end ConfigValue

namespace Config

/-- Whether the entry under `key` is absent or the empty text. -/
def unset (config : Config) (key : String) : Bool :=
  match config.get? key with
  | none => true
  | some (.string s) => s.isEmpty
  | some _ => false

def codec : Json.Codec Config := Json.Codec.entries ConfigValue.codec

end Config

end Dataflow
