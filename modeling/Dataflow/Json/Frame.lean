import Dataflow.Json.StringToken

/-! Lists and objects of a JSON text, from behind their opening bracket.

`readItems` and `readMembers` run over the items or members and thread a state
through them; what an item or a member's value is, their argument knows. Both
stop before the closing bracket. `close` reads it, and gives a place to a fault
that is adrift. -/
namespace Dataflow.Json

inductive Bracket where
  | list
  | object
deriving DecidableEq, Repr

def Bracket.opening : Bracket → Char
  | .list => '['
  | .object => '{'

def Bracket.closing : Bracket → Char
  | .list => ']'
  | .object => '}'

def Bracket.unfinished : Bracket → Cause
  | .list => .unfinishedList
  | .object => .unfinishedObject

def Bracket.expectedCommaOrEnd : Bracket → Cause
  | .list => .expectedListCommaOrEnd
  | .object => .expectedObjectCommaOrEnd

/-- Where the closing of a list or object ends up, and what is wrong if its
bracket is not there. Behind a list's last item a comma is looked past. -/
def Bracket.closeAt (b : Bracket) (s : List Char) : List Char × Option Cause :=
  match skipSpace s with
  | [] => ([], some b.unfinished)
  | c :: rest =>
    if c = b.closing then (rest, none)
    else if c = ',' then
      match b with
      | .object => (c :: rest, some .trailingComma)
      | .list =>
        let rest := skipSpace rest
        (rest, some (if rest.head? = some ']' then .trailingComma else .trailingCharacters))
    else (c :: rest, some .trailingCharacters)

/-- Reads the closing bracket after the contents, or anchors their fault. -/
def Bracket.close {α : Type} (b : Bracket) : Except Fault (Parsed α) → Except Fault (Parsed α)
  | .error fault => .error (fault.anchor fun rest => (b.closeAt rest).1)
  | .ok (a, s) =>
    match b.closeAt s with
    | (rest, none) => .ok (a, rest)
    | (rest, some cause) => .error (.next rest cause)

/-- The start of the next item or member, or none at the closing bracket. Behind
the first one a comma is needed. -/
def Bracket.next (b : Bracket) (first : Bool) (s : List Char) : Except Fault (Option (List Char)) :=
  match skipSpace s with
  | [] => .error (.next [] b.unfinished)
  | c :: rest =>
    if c = b.closing then .ok none
    else if first then .ok (some (c :: rest))
    else if c = ',' then
      match skipSpace rest with
      | [] => .error (.next [] .unfinishedValue)
      | d :: rest =>
        if d = b.closing then .error (.next (d :: rest) .trailingComma) else .ok (some (d :: rest))
    else .error (.next (c :: rest) b.expectedCommaOrEnd)

/-- Reads a member's key. -/
def readKey : Reader String
  | '"' :: s => readString s
  | s => .error (.next s .keyNotString)

section
variable {σ : Type}

/-- Items up to the closing bracket. Every item takes a character, so the text from
the opening bracket on has as many characters as can be needed. -/
def readItemsFrom (item : σ → Reader σ) : List Char → Bool → σ → Reader σ
  | [], _, state, s => .ok (state, s)
  | _ :: fuel, first, state, s => do
    match ← Bracket.list.next first s with
    | none => .ok (state, s)
    | some s =>
      let (state, s) ← item state s
      readItemsFrom item fuel false state s

def readItems (item : σ → Reader σ) (state : σ) : Reader σ := fun s =>
  readItemsFrom item ('[' :: s) true state s

/-- Members up to the closing bracket; every member takes a character. -/
def readMembersFrom (member : String → σ → Reader σ) : List Char → Bool → σ → Reader σ
  | [], _, state, s => .ok (state, s)
  | _ :: fuel, first, state, s => do
    match ← Bracket.object.next first s with
    | none => .ok (state, s)
    | some s =>
      let (key, s) ← readKey s
      let (state, s) ← member key state s
      readMembersFrom member fuel false state s

def readMembers (member : String → σ → Reader σ) (state : σ) : Reader σ := fun s =>
  readMembersFrom member ('{' :: s) true state s

end

end Dataflow.Json
