/-
# The tool

A run of the tool takes arguments, files and the settings file that the environment names,
and leaves an exit code, two texts and files: what it was asked for goes to the output, and
log, warnings and errors go to the error text.

| exit | cause |
| --- | --- |
| 0 | the task is done; a command that is doubtful only gives warnings |
| 1 | settings, script or output file, or a command type, cannot be used |

Three things end a run without an exit code: arguments that make no request, or ask for
help; and a fault that the tool has no message for. Whatever can fail comes before the
first character of output, but for the blocks of a checked script, which are made after it
is approved; those of commands that were read always can be.

Texts are put out one after the other, each as a whole or, if it has half of a surrogate pair,
not at all.

The level of the log is named by the settings, in any case. Two names that look like levels
stand for something else, a format and the styles of formats, and end the run.
-/

import DraftScript.Catalogue
import DraftScript.CommandLine.Listing
import DraftScript.CommandLine.Request
import DraftScript.Settings.File

namespace DraftScript

/-- A fault that the tool has no message for. -/
inductive ToolFault where
  | settingsName
  | settings (f : LoadFault)
  | levelType (typeName : Chars)
  | levelBytes
  | levelFormat
  | levelStyles
  | scriptNotText
  | digits (n : Nat)
  | render (f : RenderFault)
  | file (f : FileFault)
deriving DecidableEq, Repr

/-- What is said of a fault, for those who have to mend it. -/
def ToolFault.message : ToolFault → Chars
  | settingsName => "expected str, bytes or os.PathLike object, not list"
  | settings f => f.message
  | levelType t => "'" ++ t ++ "' object has no attribute 'upper'"
  | levelBytes => "attribute name must be string, not 'bytes'"
  | levelFormat => "Unknown level: '%(levelname)s:%(name)s:%(message)s'"
  | levelStyles =>
    "Level not an integer or a valid string: \x7b" ++
      "'%': (<class 'logging.PercentStyle'>, '%(levelname)s:%(name)s:%(message)s'), " ++
      "'\x7b': (<class 'logging.StrFormatStyle'>, '\x7blevelname\x7d:\x7bname\x7d:\x7bmessage\x7d'), " ++
      "'$': (<class 'logging.StringTemplateStyle'>, '$\x7blevelname\x7d:$\x7bname\x7d:$\x7bmessage\x7d')\x7d"
  | scriptNotText => "<decode error>"
  | digits n => (Refusal.digits n).message
  | render f => f.message
  | file f => f.message

/-- How a run ends. -/
inductive Ending where
  | exit (code : Nat)
  | stop (s : ArgumentStop)
  | fault (f : ToolFault)
deriving DecidableEq, Repr

/-- What a run leaves. -/
structure Outcome where
  ending : Ending
  output : Chars := []
  errors : Chars := []
  files : Files
deriving DecidableEq, Repr

namespace Tool

/-- The names of the levels that settings may choose. The level below all others shows what
`DEBUG` shows. -/
def levelNames : List (Chars × Level) :=
  [("NOTSET", .debug), ("DEBUG", .debug), ("INFO", .info), ("WARNING", .warning),
    ("WARN", .warning), ("ERROR", .error), ("CRITICAL", .critical), ("FATAL", .critical)]

/-- The level of a name, `WARNING` for an unknown one. -/
def levelOfName (name : Chars) : Except ToolFault Level :=
  if name = "BASIC_FORMAT".toList then .error .levelFormat
  else if name = "_STYLES".toList then .error .levelStyles
  else .ok ((levelNames.lookup name).getD .warning)

/-- The least level that is logged: with `-v` the one for that, else the one that the
settings name in any case, else `WARNING`. -/
def leastLevel (verbosity : Nat) (named : Datum) : Except ToolFault Level :=
  match verbosity, named with
  | 0, .scalar (.text t) => levelOfName (Chars.upper t)
  | 0, .scalar (.bytes _) => .error .levelBytes
  | 0, d => .error (.levelType d.typeName)
  | 1, _ => .ok .info
  | _, _ => .ok .debug

/-- The log of events from a level on. -/
def log (least : Level) (es : List Event) : Chars :=
  Listing.text ((es.filter fun e => least.rank ≤ e.level.rank).map Event.text)

/-- What the error text says of an error. -/
def errorText (message : Chars) : Chars := "Error: " ++ message ++ "\n"

/-- What is said of collected warnings, nothing if there are none. -/
def warningText (ds : Diagnostics) : Chars :=
  if 0 < ds.count .warning then (ds.format? false).getD [] ++ "\n" else []

/-- What a run takes from the machine and its libraries: what reads settings files, the rules
for arguments, which characters stand for halves of surrogate pairs, and the room for levels of
data where the level of the log is described, and a name in a header. -/
structure System where
  reader : DocumentReader
  rules : ArgumentRules
  halves : Halves
  levelRoom : Nat
  nameRoom : Nat

/-- What is put out of some texts, and what forbids the first that cannot be. -/
def System.putOut (sys : System) : List Chars → Chars × Option FileFault
  | [] => ([], none)
  | t :: ts =>
    match sys.halves.textFault? t with
    | some f => ([], some f)
    | none => let r := sys.putOut ts; (t ++ r.1, r.2)

/-- The surroundings of a task: the system, files, settings and the least level that is
logged. -/
structure Context where
  system : System
  files : Files
  settings : Settings
  least : Level

namespace Context

/-- A run that failed. -/
def failed (x : Context) (errors : Chars) : Outcome :=
  { ending := .exit 1, errors, files := x.files }

/-- A run that ended in a fault. -/
def broken (x : Context) (errors : Chars) (f : ToolFault) : Outcome :=
  { ending := .fault f, errors, files := x.files }

/-- A run that did its task and left the files as they are. -/
def done (x : Context) (errors : Chars) : Outcome :=
  { ending := .exit 0, errors, files := x.files }

/-- Puts texts out and goes on, unless one of them cannot be put out. -/
def print (x : Context) (ts : List Chars) (errors : Chars) (next : Outcome) : Outcome :=
  match x.system.putOut ts with
  | (t, some f) => { x.broken errors (.file f) with output := t }
  | (t, none) => { next with output := t ++ next.output }

/-- The content of a script file. -/
def content (x : Context) (p : FilePath) : Except Chars Content := do
  if ← (x.files.has x.system.halves p).mapError FileFault.message then
    (x.files.open? x.system.halves p).mapError FileFault.message
  else .error ("File not found: " ++ p.text)

/-- Reads a script and goes on with the session and the log. -/
def withScript (x : Context) (file : Chars) (next : Session → Chars → Outcome) : Outcome :=
  match x.content (.ofText file) with
  | .error message => x.failed (errorText message)
  | .ok c =>
    match c.read? with
    | none => x.broken [] .scriptNotText
    | some source =>
      let start : Session := { registry := Catalogue.registry, settings := x.settings }
      let (o, s) := start.read (some file) source
      let log := log x.least o.events
      match o.failure with
      | none => next s log
      | some failure =>
        match failure.error?, failure.cause with
        | some e, _ => x.failed (log ++ (e.diagnostic.format? true).getD [] ++ "\n")
        | none, .digits n => x.broken log (.digits n)
        | none, _ => x.failed log

/-- Goes on with the text of a report, the warnings as a text, and the log. -/
def withText (x : Context) (log : Chars) (r : Report Chars)
    (next : Chars → Chars → Chars → Outcome) : Outcome :=
  let log := log ++ Tool.log x.least r.events
  match r.result with
  | .error f => x.broken log (.render f)
  | .ok t => next t (warningText r.warnings) log

/-- What is said of a script that can be read. -/
def approval (file : Chars) (commands : Nat) : Chars :=
  "OK: " ++ (FilePath.ofText file).name ++ " - " ++ Chars.ofNat commands ++
    " command(s), no errors\n"

/-- Tells whether a script can be read, and then what is doubtful about it. -/
def check (x : Context) (file : Chars) : Outcome :=
  x.withScript file fun s log =>
    x.print [approval file s.commands.length] log <|
      x.withText log (s.blocks s.commands) fun _ warnings log =>
        x.print [warnings] log (x.done log)

/-- Lists the commands and variables of a script. -/
def list (x : Context) (file : Chars) : Outcome :=
  x.withScript file fun s log => x.print (Listing.ended (Listing.script s)) log (x.done log)

/-- Puts generated code into a file, or out. An empty name of a file counts as none. -/
def deliver (x : Context) (output : Option Chars) (t errors : Chars) : Outcome :=
  match output.filter (· ≠ []) with
  | none => x.print [t] errors (x.done errors)
  | some name =>
    let p := FilePath.ofText name
    match x.files.write x.system.halves p t with
    | (files, some f) =>
      let y := { x with files }
      if f.isOfFile then y.failed (errors ++ errorText f.message) else y.broken errors (.file f)
    | (files, none) =>
      let y := { x with files }
      y.print ["Generated code saved to " ++ p.text ++ "\n"] errors (y.done errors)

/-- Generates the code of a script. -/
def render (x : Context) (file : Chars) (output : Option Chars) (bodyOnly : Bool) : Outcome :=
  x.withScript file fun s log =>
    let report :=
      if bodyOnly then s.blocks s.commands else s.document x.system.nameRoom s.commands
    x.withText log report fun t warnings log => x.deliver output t (log ++ warnings)

/-- Puts out texts that describe command types. -/
def tell (x : Context) (ts : Except RenderFault (List Chars)) : Outcome :=
  match ts with
  | .error f => x.broken [] (.render f)
  | .ok ts => x.print ts [] (x.done [])

/-- Lists the command types, or describes one. An empty name of a type counts as none. -/
def schemas (x : Context) (type : Option Chars) (json : Bool) : Outcome :=
  match type.filter (· ≠ []) with
  | none =>
    let r := Catalogue.registry
    x.tell (if json then (Listing.registryData r).map fun t => [t ++ "\n"]
      else (Listing.categories r).map Listing.ended)
  | some name =>
    match Catalogue.registry.get? (Chars.upper name) with
    | none => x.failed (errorText ("Unknown command: " ++ name))
    | some s =>
      x.tell (if json then (Listing.schemaData s).map fun t => [t ++ "\n"]
        else (Listing.schema s).map Listing.ended)

/-- Does a task. -/
def perform (x : Context) : Task → Outcome
  | .check file => x.check file
  | .list file => x.list file
  | .render file output bodyOnly => x.render file output bodyOnly
  | .schemas type json => x.schemas type json

end Context

section Running

variable (sys : System) (files : Files) (environment : Option Chars)

/-- The settings that a request asks for. -/
def settings (q : Request) : Except (ToolFault ⊕ Chars) Settings :=
  match q.settingsFile with
  | some .dashes => .error (.inl .settingsName)
  | file =>
    match Settings.load sys.reader sys.halves sys.levelRoom files (file.bind (·.text?))
      environment with
    | .ok s => .ok s
    | .error f => .error (if f.isOfValue then .inr f.message else .inl (.settings f))

/-- Runs the tool. -/
def run (arguments : List Chars) : Outcome :=
  match Request.read sys.rules arguments with
  | .error s => { ending := .stop s, files }
  | .ok q =>
    match settings sys files environment q with
    | .error (.inl f) => { ending := .fault f, files }
    | .error (.inr message) => { ending := .exit 1, errors := errorText message, files }
    | .ok settings =>
      match leastLevel q.verbosity settings.logLevel with
      | .error f => { ending := .fault f, files }
      | .ok least => Context.perform ⟨sys, files, settings, least⟩ q.task

end Running

end Tool
end DraftScript
