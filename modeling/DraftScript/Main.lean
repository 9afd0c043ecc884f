/-
# The program

Looks at the disk where the request may lead, runs the tool on what is there, writes what
the run changed, and prints its texts. What cannot be read for another reason than that it is
not there is a barrier. What cannot be written is one, too: the tool is run again with it.
-/

import DraftScript.CommandLine.Tool
import DraftScript.Settings.Yaml.Reader

namespace DraftScript
namespace Program

/-- The system that the program runs on: settings are read from YAML. -/
def system : Tool.System where
  reader := Yaml.reader 489
  rules := .newer
  halves := Chars.isHalf
  levelRoom := 990
  nameRoom := 990

/-- The place of names on the disk. -/
def diskPath (names : List Chars) : String :=
  "/" ++ "/".intercalate (names.map String.ofList)

/-- What keeps a file from being used, unless it is not there or a directory. -/
def barrier? : IO.Error → Option Barrier
  | .noFileOrDirectory .. | .inappropriateType .. => none
  | .permissionDenied _ n t | .resourceExhausted _ n t | .invalidArgument _ n t
  | .otherError n t | .hardwareFault n t | .unsupportedOperation n t | .resourceBusy n t =>
    some { number := n.toNat, text := t.toList }
  | e => some { number := 5, text := (toString e).toList }

/-- The files with what the disk holds under names, on the way to a path. -/
def look (p : FilePath) (fs : Files) (names : List Chars) : IO Files := do
  match ← (IO.FS.readBinFile (diskPath names)).toBaseIO with
  | .ok b => return { fs with contents := fs.contents.put names (.ofBytes b) }
  | .error (.inappropriateType ..) => return { fs with directories := names :: fs.directories }
  | .error e =>
    match barrier? e with
    | some b => return { fs with barriers := fs.barriers.put (.read, p) b }
    | none => return fs

/-- The files with what the disk holds along the parts of a path. -/
def lookAlong (p : FilePath) (fs : Files) (names : List Chars) : List Chars → IO Files
  | [] => look p fs names
  | part :: parts => do
    let fs ← look p fs names
    lookAlong p fs (if part = "..".toList then names.dropLast else names ++ [part]) parts

/-- The files with what the disk holds along paths. -/
def explore (fs : Files) (paths : List FilePath) : IO Files :=
  paths.foldlM (fun fs p => lookAlong p fs (if p.root = [] then fs.here else []) p.parts) fs

/-- The paths where a request may lead. -/
def paths (environment : Option Chars) (arguments : List Chars) : List FilePath :=
  match Request.read system.rules arguments with
  | .ok q =>
    let settings := Settings.chosenFile (q.settingsFile.bind (·.text?)) environment
    (settings.toList ++ q.task.paths).map .ofText
  | .error _ => []

/-- Writes the files that a run made or changed, up to one that cannot be written. -/
def save (before after : Files) : IO (Option Barrier) :=
  after.contents.foldlM (fun failed p => do
    match failed, p.2 with
    | none, .text t =>
      if before.contents.get? p.1 = some p.2 then return none
      match ← (IO.FS.writeFile (diskPath p.1) (String.ofList t)).toBaseIO with
      | .ok _ => return none
      | .error e => return barrier? e
    | failed, _ => return failed) none

/-- How the program is used. -/
def usage : String :=
  "usage: draftscript [-h] [-c FILE] [-v] check FILE | list FILE | " ++
    "render FILE [-o FILE] [--body-only] | schemas [TYPE] [--json]"

/-- Says what the exit code cannot, and gives the exit code. -/
def finish : Ending → IO UInt32
  | .exit n => return n.toUInt32
  | .stop .help => do IO.println usage; return 0
  | .stop .usage => do IO.eprintln usage; return 2
  | .fault f => do IO.eprintln (String.ofList f.message); return 1

/-- Prints what a run put out. -/
def report (o : Outcome) : IO UInt32 := do
  IO.eprint (String.ofList o.errors)
  IO.print (String.ofList o.output)
  finish o.ending

/-- Runs the program in the working directory. -/
def run (arguments : List Chars) : IO UInt32 := do
  let environment := (← IO.getEnv "CADSCRIPT_CONFIG").map String.toList
  let start : Files := { here := (FilePath.ofText (toString (← IO.currentDir)).toList).parts }
  let paths := paths environment arguments
  let before ← explore start paths
  let o := Tool.run system before environment arguments
  match ← save before o.files with
  | none => report o
  | some b =>
    let blocked := paths.foldl (fun bs p => bs.put (.write, p) b) before.barriers
    report (Tool.run system { before with barriers := blocked } environment arguments)

end Program
end DraftScript

/-- The program. -/
def main (arguments : List String) : IO UInt32 :=
  DraftScript.Program.run (arguments.map String.toList)
