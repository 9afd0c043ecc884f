/-
# Why a text gives no datum

Most faults are of form: the text is no YAML document, or one whose tags, names or keys
have no meaning. A document may also be too deep. The others are found when a scalar is read,
and each says what is wrong with it.
-/

import DraftScript.Chars.Quoted
import DraftScript.Number.Length
import DraftScript.Settings.Calendar

namespace DraftScript
namespace Yaml

/-- Why a text gives no datum. -/
inductive Fault where
  | form
  | depth
  | character
  | characterSize
  | whole (base : Nat) (text : Chars)
  | digits (n : Nat)
  | real (text : Chars)
  | realSize
  | empty
  | truth (word : Chars)
  | noMoment
  | momentOfMapping
  | calendar (f : CalendarFault)
deriving DecidableEq, Repr

/-- How much of a refused text is shown. -/
def shownLength : Nat := 200

/-- What a fault says. -/
def Fault.message : Fault → Chars
  | form => "no document of known form"
  | depth => "maximum recursion depth exceeded"
  | character => "chr() arg not in range(0x110000)"
  | characterSize => "Python int too large to convert to C int"
  | whole b t =>
    "invalid literal for int() with base " ++ Chars.ofNat b ++ ": " ++
      (Chars.quoted t).take shownLength
  | digits n => unreadable n
  | real t => "could not convert string to float: " ++ Chars.quoted t
  | realSize => "int too large to convert to float"
  | empty => "string index out of range"
  | truth w => Chars.quoted w
  | noMoment => "'NoneType' object has no attribute 'groupdict'"
  | momentOfMapping => "expected string or bytes-like object, got 'list'"
  | calendar f => f.message

/-- Whether a fault is one of a value that is written in the text, and is told as such. -/
def Fault.isOfValue : Fault → Bool
  | form | character | whole .. | digits _ | real _ | calendar _ => true
  | depth | characterSize | realSize | empty | truth _ | noMoment | momentOfMapping => false

/-- What is read, or why not. -/
abbrev Read (α : Type) := Except Fault α

/-- Where nothing is read, the form is wrong. -/
def orForm {α : Type} : Option α → Read α
  | some a => .ok a
  | none => .error .form

end Yaml
end DraftScript
