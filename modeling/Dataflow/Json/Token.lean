import Dataflow.Json.Fault

/-! Spaces, words and colons of a JSON text. -/
namespace Dataflow.Json

/-- What was read from the front of a text, and what is left of it. -/
abbrev Parsed (α : Type) := α × List Char

abbrev Reader (α : Type) := List Char → Except Fault (Parsed α)

/-- The four characters that may stand between tokens. -/
def isSpace (c : Char) : Bool := c == ' ' || c == '\t' || c == '\n' || c == '\r'

def skipSpace (s : List Char) : List Char := s.dropWhile isSpace

theorem skipSpace_cons {c : Char} (h : isSpace c = false) (s : List Char) :
    skipSpace (c :: s) = c :: s := by
  simp [skipSpace, h]

/-- Reads the letters of a word that has begun. -/
def readWord {α : Type} (value : α) : List Char → Reader α
  | [], s => .ok (value, s)
  | _ :: _, [] => .error (.here [] .unfinishedValue)
  | letter :: letters, c :: s =>
    if c = letter then readWord value letters s else .error (.next (c :: s) .expectedWord)

/-- Reads the colon between a key and its value. -/
def readColon (s : List Char) : Except Fault (List Char) :=
  match skipSpace s with
  | [] => .error (.next [] .unfinishedObject)
  | ':' :: rest => .ok rest
  | rest => .error (.next rest .expectedColon)

end Dataflow.Json
