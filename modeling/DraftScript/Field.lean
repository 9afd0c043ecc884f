/-
# The fields of an argument list

Commas separate fields, except inside brackets, parentheses and double quotes. A quote
counts unless the character before it is a backslash; inside quotes nothing else counts.
The depth counts openers `[` `(` up and closers `]` `)` down, may be negative, and a
comma separates only at depth zero. What is left open at the end is no error here.

The fields are the trimmed texts between the separating commas (`split`). A `Splitter` finds
them in one pass and knows at any time how far it is and what is open.

A field is an assignment `name=value` if it holds exactly one equals sign and a name.
-/

import DraftScript.Refusal

namespace DraftScript
namespace Field

/-- What the characters so far say about the next one. -/
structure Scan where
  depth : Int := 0
  inQuotes : Bool := false
  afterBackslash : Bool := false
deriving DecidableEq, Repr

namespace Scan

/-- Whether a character, standing here, opens or closes a quotation. -/
def isQuote (s : Scan) (c : Char) : Bool := c == '"' && !s.afterBackslash

/-- The change of depth that a character makes outside quotes. -/
def weight (c : Char) : Int :=
  if c = '[' ∨ c = '(' then 1 else if c = ']' ∨ c = ')' then -1 else 0

/-- The scan after one more character. -/
def step (s : Scan) (c : Char) : Scan :=
  { depth := if s.inQuotes then s.depth else s.depth + weight c
    inQuotes := s.inQuotes != s.isQuote c
    afterBackslash := c == '\\' }

/-- The scan after a text. -/
def run (s : Scan) (t : Chars) : Scan := t.foldl step s

/-- Whether a character, standing here, separates two fields. -/
def separates (s : Scan) (c : Char) : Bool := c == ',' && !s.inQuotes && s.depth == 0

theorem run_append (s : Scan) (a b : Chars) : s.run (a ++ b) = (s.run a).run b :=
  List.foldl_append

end Scan

/-- The texts between the separating commas, from a scan on. -/
def pieces (s : Scan) : Chars → List Chars
  | [] => [[]]
  | c :: r =>
    if s.separates c then [] :: pieces (s.step c) r
    else match pieces (s.step c) r with
      | [] => [[c]]
      | p :: ps => (c :: p) :: ps

theorem pieces_ne_nil (s : Scan) (t : Chars) : pieces s t ≠ [] := by
  cases t with
  | nil => simp [pieces]
  | cons c r =>
    unfold pieces
    split
    · simp
    · split <;> simp

/-- A list without its last text if that is empty. -/
def dropEmptyLast (ts : List Chars) : List Chars :=
  if ts.getLast? = some [] then ts.dropLast else ts

/-- The trimmed fields of an argument list; a blank one at the end does not count. -/
def split (t : Chars) : List Chars := dropEmptyLast ((pieces {} t).map Chars.trim)

/-- A splitter on its way through an argument list. What it has cut and what it has read since
then are kept with the latest first. -/
structure Splitter where
  position : Nat := 0
  scan : Scan := {}
  fields : List Chars := []
  current : Chars := []
deriving DecidableEq, Repr

namespace Splitter

/-- The text behind the last cut, trimmed. -/
def last (s : Splitter) : Chars := Chars.trim s.current.reverse

/-- The splitter after one more character. -/
def step (s : Splitter) (c : Char) : Splitter :=
  if s.scan.separates c then
    { position := s.position + 1, scan := s.scan.step c, fields := s.last :: s.fields }
  else
    { s with position := s.position + 1, scan := s.scan.step c, current := c :: s.current }

/-- The splitter after a text. -/
def run (s : Splitter) (t : Chars) : Splitter := t.foldl step s

/-- The fields, of which the last counts unless it is blank. -/
def result (s : Splitter) : List Chars :=
  if s.last = [] then s.fields.reverse else (s.last :: s.fields).reverse

end Splitter

/-- The name and the value of a field. -/
def assignment (field : Chars) : Except Refusal (Chars × Chars) :=
  match Chars.splitOn '=' field with
  | [a, b] =>
    if Chars.trim a = [] then .error (.parameter field) else .ok (Chars.trim a, Chars.trim b)
  | _ => .error (.parameter field)

example : split "a=[1,2], b=\"x,y\"," = ["a=[1,2]".toList, "b=\"x,y\"".toList] := by decide +kernel
example : split ")," = [")".toList ++ ",".toList] := by decide +kernel

end Field
end DraftScript
