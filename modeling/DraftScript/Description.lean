/-
# Descriptions of schemas

A schema is described for other programs as an object in JSON: type, category,
documentation, usage and parameters. The text has one item a line, two more spaces for
each level, and escapes for quotes, backslashes, controls and all characters beyond
ASCII, those beyond `U+FFFF` as two escapes.
-/

import DraftScript.Chars.Quoted
import DraftScript.Registry

namespace DraftScript

/-- The data of descriptions. -/
inductive Json where
  | text (t : Chars)
  | truth (b : Bool)
  | array (vs : List Json)
  | object (ps : List (Chars × Json))

namespace Json

/-- The escape of a 16-bit unit. -/
def unit (n : Nat) : Chars := "\\u" ++ Chars.hex 4 n

/-- One character of a text. -/
def char (c : Char) : Chars :=
  let n := Chars.code c
  if c = '"' then "\\\""
  else if c = '\\' then "\\\\"
  else if c = '\n' then "\\n"
  else if c = '\r' then "\\r"
  else if c = '\t' then "\\t"
  else if n = 8 then "\\b"
  else if n = 12 then "\\f"
  else if 32 ≤ n ∧ n < 127 then [c]
  else if n < 0x10000 then unit n
  else unit (0xD800 + (n - 0x10000) / 0x400) ++ unit (0xDC00 + (n - 0x10000) % 0x400)

/-- A text between quotes. -/
def string (t : Chars) : Chars := "\"" ++ t.flatMap char ++ "\""

/-- A line feed and the spaces of a level. -/
def newline (level : Nat) : Chars := '\n' :: List.replicate (2 * level) ' '

mutual

/-- The text of a value at a level. -/
def pretty (level : Nat) : Json → Chars
  | .text t => string t
  | .truth b => if b then "true" else "false"
  | .array [] => "[]"
  | .array (v :: vs) =>
    "[" ++ newline (level + 1) ++ pretty (level + 1) v ++ prettyItems (level + 1) vs ++
      newline level ++ "]"
  | .object [] => "\x7b\x7d"
  | .object ((k, v) :: ps) =>
    "\x7b" ++ newline (level + 1) ++ string k ++ ": " ++ pretty (level + 1) v ++
      prettyMembers (level + 1) ps ++ newline level ++ "\x7d"

/-- The items after the first. -/
def prettyItems (level : Nat) : List Json → Chars
  | [] => []
  | v :: vs => "," ++ newline level ++ pretty level v ++ prettyItems level vs

/-- The members after the first. -/
def prettyMembers (level : Nat) : List (Chars × Json) → Chars
  | [] => []
  | (k, v) :: ps =>
    "," ++ newline level ++ string k ++ ": " ++ pretty level v ++ prettyMembers level ps

end

end Json

/-- The description of a parameter. -/
def Parameter.describe (p : Parameter) : Except RenderFault Json := do
  return .object [("name", .text p.name), ("kind", .text p.kind.name),
    ("default", .text (← p.default.literal?)), ("integer", .truth p.integer), ("doc", .text p.doc)]

/-- The description of a schema. -/
def Schema.describe (s : Schema) : Except RenderFault Json := do
  return .object [("type", .text s.type), ("category", .text s.category), ("doc", .text s.doc),
    ("usage", .text (← s.usage)), ("params", .array (← s.parameters.mapM Parameter.describe))]

end DraftScript
