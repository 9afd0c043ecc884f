/-
# Scripts

A script is read line by line; each line sees the variables that the lines before it
bound. Reading ends at the first line that is refused: its number, its text without
carriage returns at the end, and the name of the file locate the error, and the commands
and variables of the lines before it stay.

A reader takes one script after another. Its variables live on from script to script; its
commands and the number of its line are those of the script that it took last.
-/

import DraftScript.Line

namespace DraftScript

/-- Where and why a script is refused. -/
structure ScriptFailure where
  cause : Refusal
  line : Nat
  source : Chars
  filename : Option Chars
deriving DecidableEq, Repr

/-- The error of the script, located; an overlong number is none. -/
def ScriptFailure.error? (f : ScriptFailure) : Option ScriptError :=
  (f.cause.error? (some f.line)).map fun e => e.located (some f.line) (some f.source) f.filename

/-- What reading a script gives: how it failed, if it did; the commands of the lines
that were read, how many lines that is, the variables afterwards, and the log. -/
structure ScriptOutcome where
  failure : Option ScriptFailure
  commands : List Command
  lines : Nat
  scope : Variables
  events : List Event

/-- The error that reading ended with, if it ended with an error of the script. -/
def ScriptOutcome.error? (o : ScriptOutcome) : Option ScriptError := o.failure.bind (·.error?)

namespace Script

/-- Reads lines after the first `n`. -/
def readLines (filename : Option Chars) (v : Variables) (n : Nat) : List Chars → ScriptOutcome
  | [] => { failure := none, commands := [], lines := n, scope := v, events := [] }
  | l :: ls =>
    let o := Line.read v l (n + 1 : Nat)
    match o.result with
    | .error cause =>
      { failure := some ⟨cause, n + 1, Chars.dropEndWhile (· = '\r') l, filename⟩
        commands := [], lines := n + 1, scope := o.scope, events := o.events }
    | .ok c =>
      let rest := readLines filename o.scope (n + 1) ls
      { rest with commands := c.toList ++ rest.commands, events := o.events ++ rest.events }

/-- Reads a script. A script that is read to its end logs how much it held. -/
def read (filename : Option Chars) (v : Variables) (source : Chars) : ScriptOutcome :=
  let o := readLines filename v 0 (Chars.lines source)
  if o.failure.isSome then o
  else { o with events := o.events ++ [.scriptRead o.commands.length o.lines] }

end Script

/-- What a reader of scripts holds. -/
structure ScriptReader where
  filename : Option Chars := none
  scope : Variables := .empty
  commands : List Command := []
  line : Nat := 0

/-- Reads a script: how it ended, and the reader afterwards. -/
def ScriptReader.read (r : ScriptReader) (source : Chars) : ScriptOutcome × ScriptReader :=
  let o := Script.read r.filename r.scope source
  (o, { r with scope := o.scope, commands := o.commands, line := o.lines })

end DraftScript
