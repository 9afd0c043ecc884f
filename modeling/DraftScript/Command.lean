/-
# Commands

A command is one invocation `TYPE(name=value, ...)` and the line it stands at. Its
parameters are an insertion-ordered map, but two commands are equal whatever their
orders.
-/

import DraftScript.Assoc
import DraftScript.Value

namespace DraftScript

/-- A command of a script. -/
structure Command where
  type : Chars
  parameters : Assoc Chars Value := []
  line : Int := 0
deriving DecidableEq

namespace Command

/-- The value of a parameter. -/
def get? (c : Command) (name : Chars) : Option Value := c.parameters.get? name

/-- One parameter as a field. -/
def fieldText (p : Chars × Value) : Chars := p.1 ++ "=" ++ p.2.literal

/-- The command in script form. -/
def source (c : Command) : Chars :=
  c.type ++ "(" ++ ", ".toList.intercalate (c.parameters.map fieldText) ++ ")"

/-- The command in a listing. -/
def summary (c : Command) : Chars :=
  "Line " ++ Chars.ofInt c.line ++ ": " ++ c.type ++ " (" ++
    Chars.ofNat c.parameters.length ++ " params)"

/-- Whether every parameter of the first has an equal value in the second. -/
def subsumes (a b : Assoc Chars Value) : Bool :=
  a.all fun p => match b.get? p.1 with
    | some v => p.2.same v
    | none => false

/-- Equality of commands: type, line and, in any order, equal parameters. -/
def same (a b : Command) : Bool :=
  a.type == b.type && a.line == b.line && a.parameters.length == b.parameters.length &&
    subsumes a.parameters b.parameters

end Command
end DraftScript
