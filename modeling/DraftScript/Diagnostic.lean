/-
# Diagnostics

A diagnostic says what is wrong or doubtful, where, and how to mend it. It is shown as

    part.cad:3: error[E102]: invalid parameter format: width
        |
      3 | BOX(width)
        |
        = hint: parameters are written as name=value

with the source line and the hints left out where there are none. A list of diagnostics
ends with the counts of errors and warnings; remarks count as neither.
-/

import DraftScript.Chars.Basic

namespace DraftScript

/-- How serious a diagnostic is. -/
inductive Severity where
  | error | warning | info
deriving DecidableEq, Repr

namespace Severity

/-- The name of a severity. -/
def name : Severity → Chars
  | error => "error"
  | warning => "warning"
  | info => "info"

/-- The severity of a name. -/
def ofName? (n : Chars) : Option Severity := [error, warning, info].find? fun s => s.name = n

end Severity

/-- A message about a script. -/
structure Diagnostic where
  code : Chars
  message : Chars
  severity : Severity
  line : Option Int := none
  filename : Option Chars := none
  sourceLine : Option Chars := none
  hints : List Chars := []
deriving DecidableEq, Repr

namespace Diagnostic

/-- A file name that says something: an empty one counts as none. -/
def properName (n : Option Chars) : Option Chars := n.filter (· ≠ [])

/-- Where the diagnostic points: file and line, as far as they are known. -/
def location (d : Diagnostic) : Chars :=
  match properName d.filename, d.line with
  | some f, some n => f ++ ":" ++ Chars.ofInt n
  | some f, none => f
  | none, some n => "Line " ++ Chars.ofInt n
  | none, none => "<script>"

/-- The first line of a diagnostic. -/
def headline (d : Diagnostic) : Chars :=
  d.location ++ ": " ++ d.severity.name ++ "[" ++ d.code ++ "]: " ++ d.message

/-- The lines that show line `n` of a source. -/
def excerpt (n : Int) (source : Chars) : List Chars :=
  ["    |", Chars.padStart 3 (Chars.ofInt n) ++ " | " ++ source, "    |"]

/-- The lines of a diagnostic; there are none if it has a source line without a number
and the source is to be shown. -/
def formatLines? (showSource : Bool) (d : Diagnostic) : Option (List Chars) :=
  let hints : List Chars := d.hints.map fun h => "    = hint: ".toList ++ h
  match (if showSource then d.sourceLine else none), d.line with
  | none, _ => some (d.headline :: hints)
  | some s, some n => some (d.headline :: excerpt n s ++ hints)
  | some _, none => none

/-- The text of a diagnostic. -/
def format? (showSource : Bool) (d : Diagnostic) : Option Chars :=
  (d.formatLines? showSource).map Chars.unlines

/-- The diagnostic at a line of a script; a proper file name replaces the old one. -/
def located (d : Diagnostic) (line : Option Int) (sourceLine filename : Option Chars) :
    Diagnostic :=
  { d with line, sourceLine, filename := properName filename <|> d.filename }

/-- A diagnostic at a numbered line can be shown. -/
theorem format?_located_isSome (d : Diagnostic) (n : Int) (s f : Option Chars) (b : Bool) :
    ((d.located (some n) s f).format? b).isSome := by
  cases s <;> cases b <;> simp [format?, formatLines?, located]

end Diagnostic

/-- Diagnostics in the order in which they were found. -/
abbrev Diagnostics := List Diagnostic

namespace Diagnostics

/-- How many diagnostics have a severity. -/
def count (s : Severity) (ds : Diagnostics) : Nat := ds.countP fun d => d.severity = s

/-- The line that counts errors and warnings, if there are any. -/
def summary (ds : Diagnostics) : List Chars :=
  let e := ds.count .error
  let w := ds.count .warning
  if 0 < e then [Chars.ofNat e ++ " error(s), " ++ Chars.ofNat w ++ " warning(s)"]
  else if 0 < w then [Chars.ofNat w ++ " warning(s)"]
  else []

/-- The text of all diagnostics with the counts, if each of them can be shown. -/
def format? (showSource : Bool) (ds : Diagnostics) : Option Chars :=
  (ds.mapM (Diagnostic.format? showSource)).map fun ts => Chars.unlines (ts ++ ds.summary)

end Diagnostics
end DraftScript
