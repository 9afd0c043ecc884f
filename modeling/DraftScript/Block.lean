/-
# Blocks of generated code

A command becomes a block:

    // SPHERE command (line 4)
    {
        Solid3d sphere = new Solid3d();
    }

that is a header, what its type renders, indented by four spaces between braces, and an empty
line. The block of an unregistered type is the header and a marker. The numbers of lines are
taken to be short enough to be written.
Every non-empty line of a block has the indent of the document before it.
-/

import DraftScript.Registry
import DraftScript.Resolution

namespace DraftScript
namespace Block

/-- The text with an indent before every line that is not empty. -/
def indent (margin : Chars) (t : Chars) : Chars :=
  Chars.unlines ((Chars.lines t).map fun l => if l = [] then [] else margin ++ l)

/-- The indent of a template inside its braces. -/
def bodyIndent : Chars := "    "

/-- The header of a block. -/
def header (c : Command) : Chars :=
  "// " ++ c.type ++ " command (line " ++ Chars.ofInt c.line ++ ")"

/-- The lines of a block with a body. -/
def known (c : Command) (body : Chars) : Chars :=
  Chars.unlines [header c, "\x7b", indent bodyIndent body, "\x7d"]

/-- The lines of a block of an unregistered type. -/
def unknown (c : Command) : Chars :=
  Chars.unlines [header c, "// Unknown command: " ++ c.type]

/-- The block of a command, without its indent. -/
def text (r : Registry) (c : Command) (collected : Bool := true) : Report Chars :=
  match r.get? c.type with
  | none => do
    Report.log (.schemaMissing c.type)
    Report.warn collected [(Warning.unknownCommand c.type).diagnostic c.line]
    return unknown c
  | some s => do
    let values ← Resolution.all s c collected
    let body ← Report.ofExcept (s.render values)
    return known c (Chars.dropEndWhile (· = '\n') body)

/-- The block of a command. -/
def render (r : Registry) (margin : Chars) (c : Command) (collected : Bool := true) :
    Report Chars := do
  let t ← text r c collected
  return indent margin t ++ "\n\n"

/-- The blocks of commands, one after the other. -/
def renderAll (r : Registry) (margin : Chars) (cs : List Command) (collected : Bool := true) :
    Report Chars := do
  let ts ← Report.each (fun c => render r margin c collected) cs
  return ts.flatten

end Block
end DraftScript
