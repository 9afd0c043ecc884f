/-
# One line of a script

A line, trimmed, has one of five forms, tried in this order:

| form | line |
| --- | --- |
| `nothing` | empty, or from `//` on |
| `declaration` | `VAR`, a blank, then `name = value`, cut at the first equals sign |
| `invocation` | a name, ASCII blanks, `(`, arguments, and `)` at the end |
| `unknown` | anything else |

A declaration binds its variable. An invocation becomes a command: its fields are read
from left to right, each value after substitution, and the first that cannot be read
refuses the line. Names are never substituted, and a refused line binds nothing.
-/

import DraftScript.Command
import DraftScript.Event
import DraftScript.Field
import DraftScript.Literal
import DraftScript.Variables

namespace DraftScript

/-- What a line is, before its parts are read. -/
inductive LineForm where
  | nothing
  | declaration (body : Chars)
  | invocation (name arguments : Chars)
  | unknown
deriving DecidableEq, Repr

namespace LineForm

/-- What follows `VAR` and stands before a blank, with that blank. -/
def declarationBody? : Chars → Option Chars
  | 'V' :: 'A' :: 'R' :: c :: r => if Chars.isBlank c then some (c :: r) else none
  | _ => none

/-- The name and the arguments of an invocation. -/
def invocation? (t : Chars) : Option (Chars × Chars) :=
  let name := t.takeWhile isNameChar
  if isName name then
    (Literal.enclosed '(' ')' ((t.dropWhile isNameChar).dropWhile Chars.isAsciiBlank)).map
      (name, ·)
  else none

/-- The form of a trimmed line. -/
def of (t : Chars) : LineForm :=
  if t = [] ∨ "//".toList.isPrefixOf t then nothing
  else match declarationBody? t with
    | some body => declaration body
    | none => match invocation? t with
      | some (name, arguments) => invocation name arguments
      | none => unknown

end LineForm

/-- What reading a line gives: a command, nothing, or the cause of a refusal; the
variables afterwards; and the log. -/
structure LineOutcome where
  result : Except Refusal (Option Command)
  scope : Variables
  events : List Event := []

/-- What reading fields gives: the parameters or the cause of a refusal; the variables
afterwards; and the log. -/
structure FieldsOutcome where
  result : Except Refusal (Assoc Chars Value)
  scope : Variables
  events : List Event := []

namespace Line

/-- Reads fields, whose parameters are added to those that are there. -/
def readFields (v : Variables) (ps : Assoc Chars Value) : List Chars → FieldsOutcome
  | [] => { result := .ok ps, scope := v }
  | f :: fs =>
    match Field.assignment f with
    | .error e => { result := .error e, scope := v }
    | .ok (name, raw) =>
      let repeated := if ps.has name then [Event.parameterRepeated name] else []
      let v' := v.afterSubstitute raw
      match Literal.read (v.substitute raw) with
      | .error e => { result := .error e, scope := v', events := repeated }
      | .ok value =>
        let o := readFields v' (ps.put name value) fs
        { o with events := repeated ++ o.events }

/-- Reads an argument list. -/
def readArguments (v : Variables) (arguments : Chars) : FieldsOutcome :=
  readFields v [] (Field.split arguments)

/-- Reads the declaration that a trimmed line `t` is. -/
def readDeclaration (v : Variables) (t body : Chars) : LineOutcome :=
  let refused : LineOutcome := { result := .error (.declaration t), scope := v }
  match Chars.cutAt '=' body with
  | none => refused
  | some (name, value) =>
    if Chars.trim value = [] then refused
    else match v.define? (Chars.trim name) (Chars.trim value) with
      | none => refused
      | some (v', e) => { result := .ok none, scope := v', events := [e] }

/-- Reads an invocation at a line. -/
def readInvocation (v : Variables) (line : Int) (name arguments : Chars) : LineOutcome :=
  let o := readArguments v arguments
  match o.result with
  | .error e => { result := .error e, scope := o.scope, events := o.events }
  | .ok parameters =>
    let c : Command := { type := name.map Char.toUpper, parameters, line }
    { result := .ok (some c), scope := o.scope,
      events := o.events ++ [.commandRead c.type c.parameters.length] }

/-- Reads a line with a number. -/
def read (v : Variables) (l : Chars) (line : Int) : LineOutcome :=
  let t := Chars.trim l
  match LineForm.of t with
  | .nothing => { result := .ok none, scope := v }
  | .declaration body => readDeclaration v t body
  | .invocation name arguments => readInvocation v line name arguments
  | .unknown => { result := .error (.command t), scope := v }

end Line
end DraftScript
