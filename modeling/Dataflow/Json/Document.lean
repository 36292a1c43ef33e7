import Dataflow.Json.Frame
import Dataflow.Json.Number
import Dataflow.Json.Value

/-! Reading any JSON value, and skipping one.

`readValue` keeps to a limit of nested lists and objects. A value under a key that
nobody asked for is skipped (`skipValue`): it may nest as deep as it likes, so the
open brackets are kept in a list, and it is looked at less closely. -/
namespace Dataflow.Json

/-- Reads a value in which at most `depth` lists and objects are nested. -/
def readValue : Nat → Reader Value
  | depth, s =>
    match skipSpace s with
    | [] => .error (.next [] .unfinishedValue)
    | 'n' :: s => readWord .null ['u', 'l', 'l'] s
    | 't' :: s => readWord (.bool true) ['r', 'u', 'e'] s
    | 'f' :: s => readWord (.bool false) ['a', 'l', 's', 'e'] s
    | '"' :: s => do
      let (text, s) ← readString s
      .ok (.string text, s)
    | '[' :: s =>
      match depth with
      | 0 => .error (.next ('[' :: s) .tooDeep)
      | depth + 1 => do
        let (items, s) ← Bracket.list.close (readItems
          (fun items s => do
            let (v, s) ← readValue depth s
            .ok (v :: items, s)) [] s)
        .ok (.array items.reverse, s)
    | '{' :: s =>
      match depth with
      | 0 => .error (.next ('{' :: s) .tooDeep)
      | depth + 1 => do
        let (members, s) ← Bracket.object.close (readMembers
          (fun key members s => do
            let (v, s) ← readValue depth (← readColon s)
            .ok ((key, v) :: members, s)) [] s)
        .ok (.object members.reverse, s)
    | c :: s =>
      if startsNumber c then do
        let (n, s) ← readNumber (c :: s)
        .ok (.number n.toFloat, s)
      else .error (.next (c :: s) .expectedValue)
termination_by structural depth => depth

/-- Skips a word, number or string, or opens a list or object. -/
def skipStart : Reader (Option Bracket) := fun s =>
  match skipSpace s with
  | [] => .error (.next [] .unfinishedValue)
  | 'n' :: s => readWord none ['u', 'l', 'l'] s
  | 't' :: s => readWord none ['r', 'u', 'e'] s
  | 'f' :: s => readWord none ['a', 'l', 's', 'e'] s
  | '"' :: s => do .ok (none, ← skipString s)
  | '[' :: s => .ok (some .list, s)
  | '{' :: s => .ok (some .object, s)
  | c :: s =>
    if startsNumber c then do .ok (none, ← skipNumber (c :: s))
    else .error (.next (c :: s) .expectedValue)

/-- Closes what is closed here, and then skips the comma before the next value.
Directly behind an opening bracket there is no comma. -/
def skipEnds (comma : Bool) : List Bracket → Reader (List Bracket)
  | [], s => .ok ([], s)
  | b :: outer, s =>
    match skipSpace s with
    | [] => .error (.next [] b.unfinished)
    | c :: rest =>
      if c = b.closing then skipEnds true outer rest
      else if !comma then .ok (b :: outer, c :: rest)
      else if c = ',' then .ok (b :: outer, rest)
      else .error (.next (c :: rest) b.expectedCommaOrEnd)

/-- Skips a key and its colon if the next value is an object's. -/
def skipKey : List Bracket → List Char → Except Fault (List Char)
  | .object :: _, s =>
    match skipSpace s with
    | [] => .error (.next [] .unfinishedObject)
    | '"' :: s => do readColon (← skipString s)
    | s => .error (.next s .keyNotString)
  | _, s => .ok s

/-- Skips values until all brackets are closed. Every value takes a character. -/
def skipValues : List Char → List Bracket → List Char → Except Fault (List Char)
  | [], _, s => .ok s
  | _ :: fuel, brackets, s => do
    let (opened, s) ← skipStart (← skipKey brackets s)
    match ← skipEnds opened.isNone (opened.toList ++ brackets) s with
    | ([], s) => .ok s
    | (brackets, s) => skipValues fuel brackets s

/-- Skips one value, which stands behind a colon. -/
def skipValue (s : List Char) : Except Fault (List Char) := skipValues (':' :: s) [] s

end Dataflow.Json
