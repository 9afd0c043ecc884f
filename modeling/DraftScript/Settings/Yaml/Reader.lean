/-
# YAML as the form of settings files

The reader of documents that a program gets which takes its settings from YAML. How deep
collections may stand in each other depends on the machine.
-/

import DraftScript.Settings.File
import DraftScript.Settings.Yaml.Build

namespace DraftScript
namespace Yaml

namespace Fault

/-- The sort of a fault that is not told as one of the document. -/
def sort : Fault → Chars
  | depth => "RecursionError"
  | characterSize | realSize => "OverflowError"
  | empty => "IndexError"
  | truth _ => "KeyError"
  | noMoment => "AttributeError"
  | momentOfMapping => "TypeError"
  | _ => "ValueError"

/-- A fault as readers of documents tell it. -/
def toReadFault (f : Fault) : ReadFault :=
  if f = form then .form f.message
  else if f.isOfValue then .value f.message else .other f.sort f.message

end Fault

/-- Reads documents in YAML with no more than so many collections in each other. -/
def reader (limit : Nat) : DocumentReader := fun t => (read limit t).mapError Fault.toReadFault

end Yaml
end DraftScript
