/-
# What the tool is asked to do

| arguments | task |
| --- | --- |
| `check FILE` | reads a script and tells what is wrong or doubtful |
| `list FILE` | lists the commands and variables of a script |
| `render FILE [-o OUT] [--body-only]` | generates code |
| `schemas [TYPE] [--json]` | lists the command types, or describes one |

Before the task stand `-c FILE`, the settings, and `-v`, which may be repeated for more
logging. Of an option that is given several times the last value counts; where the rules for
arguments make none of `--` in place of the output file, there is no output file.
-/

import DraftScript.CommandLine.Arguments

namespace DraftScript

/-- A task of the tool. -/
inductive Task where
  | check (file : Chars)
  | list (file : Chars)
  | render (file : Chars) (output : Option Chars) (bodyOnly : Bool)
  | schemas (type : Option Chars) (json : Bool)
deriving DecidableEq, Repr

/-- A task with the settings file and how often more logging is asked for. -/
structure Request where
  settingsFile : Option OptionValue
  verbosity : Nat
  task : Task
deriving DecidableEq, Repr

/-- The paths that a task names. -/
def Task.paths : Task → List Chars
  | .check file | .list file => [file]
  | .render file output _ => file :: output.toList
  | .schemas .. => []

namespace Request

/-- The option that asks for help. -/
def help : ToolOption := { names := ["-h", "--help"] }

/-- The option that names the settings. -/
def config : ToolOption := { names := ["-c", "--config"], takesValue := true }

/-- The option that asks for more logging. -/
def verbose : ToolOption := { names := ["-v", "--verbose"] }

/-- The option that names the file for the generated code. -/
def output : ToolOption := { names := ["-o", "--output"], takesValue := true }

/-- The option that leaves out header and footer. -/
def bodyOnly : ToolOption := { names := ["--body-only"] }

/-- The option that asks for descriptions as data. -/
def json : ToolOption := { names := ["--json"] }

/-- The last value of an option. -/
def lastValue? (r : Reading) (o : ToolOption) : Option OptionValue :=
  ((r.options.filter fun x => x.1 = o).getLast?).bind (·.2)

/-- How often an option is given. -/
def count (r : Reading) (o : ToolOption) : Nat := r.options.countP fun x => x.1 = o

/-- Reads the arguments of a task; none of them may fit nowhere. -/
def readAll (rules : ArgumentRules) (p : ArgumentForm) (as : List Chars) :
    Except ArgumentStop Reading := do
  let r ← p.read rules as
  if r.strange ≠ [] then throw .usage
  return r

/-- The file that is given, which is required. -/
def file (r : Reading) : Except ArgumentStop Chars :=
  match r.positional with
  | some (f :: _) => .ok f
  | _ => .error .usage

/-- The task that a name and its arguments ask for. -/
def readTask (rules : ArgumentRules) (name : Chars) (as : List Chars) :
    Except ArgumentStop Task := do
  if name = "check".toList then
    return .check (← file (← readAll rules ⟨[help], .required⟩ as))
  else if name = "list".toList then
    return .list (← file (← readAll rules ⟨[help], .required⟩ as))
  else if name = "render".toList then
    let r ← readAll rules ⟨[help, output, bodyOnly], .required⟩ as
    return .render (← file r) ((lastValue? r output).bind (·.text?)) (0 < count r bodyOnly)
  else if name = "schemas".toList then
    let r ← readAll rules ⟨[help, json], .optional⟩ as
    return .schemas (r.positional.bind List.head?) (0 < count r json)
  else throw .usage

/-- The request that arguments make, or why there is none. -/
def read (rules : ArgumentRules) (as : List Chars) : Except ArgumentStop Request := do
  let r ← ArgumentForm.read ⟨[help, config, verbose], .command⟩ rules as
  match r.positional with
  | some (name :: rest) =>
    let t ← readTask rules name rest
    if r.strange ≠ [] then throw .usage
    return { settingsFile := lastValue? r config, verbosity := count r verbose, task := t }
  | _ => throw .usage

end Request
end DraftScript
