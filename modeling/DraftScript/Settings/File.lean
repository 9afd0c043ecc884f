/-
# Settings files

The settings come from the file that is named on the command line, else from the one
that the environment names, else they are the defaults. A file that is named must be
there, hold a text, and be a document of settings.

A document is read by whatever reader there is. It gives a datum, or says what is wrong with the
form of the text or with a value in it, or fails in a way of its own.
-/

import DraftScript.Files
import DraftScript.Settings.Basic

namespace DraftScript

/-- Why a document cannot be read. A fault of its own sort is one that a reader does not tell as
a fault of the document. -/
inductive ReadFault where
  | form (text : Chars)
  | value (message : Chars)
  | other (sort message : Chars)
deriving DecidableEq, Repr

/-- What a reader makes of a text. -/
abbrev DocumentReader := Chars → Except ReadFault Datum

/-- Why settings cannot be loaded. -/
inductive LoadFault where
  | missing (path : Chars)
  | file (f : FileFault)
  | notText
  | document (path : Chars) (f : ReadFault)
  | settings (f : SettingsFault)
deriving DecidableEq, Repr

/-- What a fault says. -/
def LoadFault.message : LoadFault → Chars
  | missing p => "config file not found: " ++ p
  | file f => f.message
  | notText => "<decode error>"
  | document p (.form t) => "invalid config file " ++ p ++ ": " ++ t
  | document _ (.value t) | document _ (.other _ t) => t
  | settings f => f.message

/-- Whether a fault is one of the file or of a value in it. -/
def LoadFault.isOfValue : LoadFault → Bool
  | missing _ | file _ | notText | document _ (.form _) | document _ (.value _) => true
  | document _ (.other ..) => false
  | settings f => f.isOfValue

namespace Settings

/-- The settings file that is to be read: an empty name in the environment counts as none. -/
def chosenFile (argument environment : Option Chars) : Option Chars :=
  argument <|> environment.filter (· ≠ [])

section Loading

variable (reader : DocumentReader) (halves : Halves) (room : Nat) (fs : Files)

/-- The settings of a file. -/
def ofFile (p : FilePath) : Except LoadFault Settings := do
  if !(← (fs.has halves p).mapError .file) then throw (.missing p.text)
  let content ← (fs.open? halves p).mapError .file
  match content.read? with
  | none => throw .notText
  | some t =>
    let d ← (reader t).mapError (.document p.text)
    (ofDatum room d).mapError .settings

/-- The settings that the command line and the environment ask for. -/
def load (argument environment : Option Chars) : Except LoadFault Settings :=
  match chosenFile argument environment with
  | none => .ok {}
  | some name => ofFile reader halves room fs (.ofText name)

end Loading

end Settings
end DraftScript
