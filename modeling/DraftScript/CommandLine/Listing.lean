/-
# Listings

What the tool prints about a script,

    Total commands: 1
    1. Line 2: BOX (3 params)
    Variables (1):
      $h = 3

about a command type,

    MESH - Subdivision mesh (Surfaces and regions)
      MESH(subdivisionLevel=0)
        subdivisionLevel: integer = 0

with what a parameter means in brackets after it, and about all types: the categories, and
below each of them the usages of its types. Types are listed as data, too.
-/

import DraftScript.Description
import DraftScript.Session

namespace DraftScript
namespace Listing

/-- Lines as texts that end with a line feed. -/
def ended (ls : List Chars) : List Chars := ls.map (· ++ "\n")

/-- The lines as a text in which each of them ends. -/
def text (ls : List Chars) : Chars := (ended ls).flatten

/-- The lines of numbered commands, from number `n` on. -/
def numbered (n : Nat) : List Command → List Chars
  | [] => []
  | c :: cs => (Chars.ofNat n ++ ". " ++ c.summary) :: numbered (n + 1) cs

/-- The lines of commands and variables. -/
def script (s : Session) : List Chars :=
  ("Total commands: " ++ Chars.ofNat s.commands.length) :: numbered 1 s.commands ++
    ("Variables (" ++ Chars.ofNat s.scope.bindings.length ++ "):") ::
      s.scope.bindings.map fun b => "  " ++ Variables.bindingText b

/-- The line of a parameter. -/
def parameter (p : Parameter) : Except RenderFault Chars := do
  let note : Chars := if p.doc = [] then [] else "  [" ++ p.doc ++ "]"
  return "    " ++ p.name ++ ": " ++ p.kindText ++ " = " ++ (← p.default.literal?) ++ note

/-- The lines of a command type. -/
def schema (s : Schema) : Except RenderFault (List Chars) := do
  let usage ← s.usage
  let ps ← s.parameters.mapM parameter
  return (s.type ++ " - " ++ s.doc ++ " (" ++ s.category ++ ")") :: ("  " ++ usage) :: ps

/-- The line of a type below its category. -/
def usage (r : Registry) (type : Chars) : Except RenderFault Chars := do
  match r.get? type with
  | some s => return "  " ++ (← s.usage)
  | none => return "  "

/-- The lines of all command types. -/
def categories (r : Registry) : Except RenderFault (List Chars) := do
  let groups ← r.categories.mapM fun g => (g.2.mapM (usage r)).map ((g.1 ++ [':']) :: ·)
  return groups.flatten

/-- A command type as data. -/
def schemaData (s : Schema) : Except RenderFault Chars := s.describe.map (·.pretty 0)

/-- All command types as data. -/
def registryData (r : Registry) : Except RenderFault Chars := do
  return (Json.array (← r.schemas.mapM fun p => p.2.describe)).pretty 0

end Listing
end DraftScript
