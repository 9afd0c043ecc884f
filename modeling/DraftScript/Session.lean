/-
# Sessions

A session holds the variables and the commands of one user. Reading a script replaces the
commands: the list is emptied first and stays empty if the script is refused, while the
variables bound before the refusal stay. Clearing resets both.
-/

import DraftScript.Document
import DraftScript.Script

namespace DraftScript

/-- Variables and commands, with the registry and the settings they are rendered by. -/
structure Session where
  registry : Registry
  settings : Settings := {}
  scope : Variables := .empty
  commands : List Command := []

namespace Session

/-- Reads a script: how it ended, and the session afterwards. -/
def read (s : Session) (filename : Option Chars) (source : Chars) : ScriptOutcome × Session :=
  let o := Script.read filename s.scope source
  (o, { s with
    scope := o.scope
    commands := if o.failure.isSome then [] else o.commands })

/-- Binds a variable, if the name is one. -/
def define? (s : Session) (name text : Chars) : Option (Session × Event) :=
  (s.scope.define? name text).map fun p => ({ s with scope := p.1 }, p.2)

/-- The blocks of commands. -/
def blocks (s : Session) (cs : List Command) : Report Chars :=
  Block.renderAll s.registry s.settings.indent cs

/-- The document of commands, with room for so many levels of data in its header. -/
def document (s : Session) (room : Nat) (cs : List Command) : Report Chars :=
  Document.render room s.settings s.registry cs

/-- The session without variables and commands, which is logged. -/
def clear (s : Session) : Session × Event :=
  ({ s with scope := s.scope.clear, commands := [] }, .sessionCleared)

end Session
end DraftScript
