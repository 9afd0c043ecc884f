/-
# Why a text is refused, and what is doubtful

A refusal is the cause for which a line or a literal cannot be read. All causes but one
are errors of the script, with a code, a message and hints:

| code | cause |
| --- | --- |
| `E101` | the line is no invocation `NAME(...)` |
| `E102` | a field is not `name=value` |
| `E103` | a declaration is not `VAR name = value` |
| `E201` | a point, vector or color has not three components |
| `E202` | a component is not a number, or for a color not a whole number |

The exception is a whole number of more than 4300 digits, which is too long to convert.

A warning is about a command that is read but does not fit its schema: `W101` for an
unknown type, `W102` for an unusable parameter, `W103` for an undeclared one.
-/

import DraftScript.Diagnostic
import DraftScript.Number.Length

namespace DraftScript

/-- The class of an error of the script. -/
inductive ErrorClass where
  | shape | format
deriving DecidableEq, Repr

/-- The cause for which a text cannot be read. -/
inductive Refusal where
  | command (text : Chars)
  | parameter (field : Chars)
  | declaration (text : Chars)
  | count (subject : Chars) (expected : Int) (literal : Chars)
  | component (subject part literal : Chars)
  | digits (n : Nat)
deriving DecidableEq, Repr

/-- An error of a script: its class and what is shown. -/
structure ScriptError where
  errorClass : ErrorClass
  diagnostic : Diagnostic
deriving DecidableEq, Repr

namespace ScriptError

/-- The error at a line of a script. -/
def located (e : ScriptError) (line : Option Int) (sourceLine filename : Option Chars) :
    ScriptError :=
  { e with diagnostic := e.diagnostic.located line sourceLine filename }

/-- The error in one line of text. -/
def message (e : ScriptError) : Chars :=
  match e.diagnostic.line with
  | none => e.diagnostic.message
  | some n => "Line " ++ Chars.ofInt n ++ ": " ++ e.diagnostic.message

end ScriptError

namespace Refusal

/-- The code of a cause. -/
def code : Refusal → Chars
  | command _ => "E101"
  | parameter _ => "E102"
  | declaration _ => "E103"
  | count .. => "E201"
  | component .. => "E202"
  | digits _ => ""

/-- What a cause says. -/
def message : Refusal → Chars
  | command t => "invalid command format: " ++ t
  | parameter f => "invalid parameter format: " ++ f
  | declaration t => "invalid variable declaration: " ++ t
  | count s n l =>
    let noun : Chars := if s = "color".toList then "components" else "coordinates"
    s ++ " must have " ++ Chars.ofInt n ++ " " ++ noun ++ ": " ++ l
  | component s p l =>
    let expected : Chars := if s = "color".toList then "an integer" else "a number"
    s ++ " component '" ++ p ++ "' is not " ++ expected ++ ": " ++ l
  | digits n => unreadable n

/-- How the text is to be written. -/
def hints : Refusal → List Chars
  | command _ => ["commands look like NAME(param=value, ...)"]
  | parameter _ => ["parameters are written as name=value"]
  | declaration _ => ["variables are declared as VAR name = value"]
  | _ => []

/-- The class of a cause; a number that is too long is no error of the script. -/
def errorClass? : Refusal → Option ErrorClass
  | command _ | parameter _ | declaration _ => some .shape
  | count .. | component .. => some .format
  | digits _ => none

/-- The diagnostic of a cause. Only a line that is no invocation knows its number. -/
def diagnostic (r : Refusal) (line : Option Int) : Diagnostic :=
  { code := r.code, message := r.message, severity := .error, hints := r.hints,
    line := match r with
      | command _ => line
      | _ => none }

/-- The error of the script that a cause is. -/
def error? (r : Refusal) (line : Option Int) : Option ScriptError :=
  r.errorClass?.map fun c => ⟨c, r.diagnostic line⟩

/-- Every cause but an overlong number is an error of the script. -/
theorem error?_isSome_iff (r : Refusal) (line : Option Int) :
    (r.error? line).isSome ↔ ∀ n, r ≠ .digits n := by
  cases r <;> simp [error?, errorClass?]

end Refusal

/-- What is doubtful about a command. -/
inductive Warning where
  | unknownCommand (type : Chars)
  | parameterDefault (type name found expected : Chars)
  | unknownParameter (type name : Chars)
deriving DecidableEq, Repr

namespace Warning

/-- The code of a warning. -/
def code : Warning → Chars
  | unknownCommand _ => "W101"
  | parameterDefault .. => "W102"
  | unknownParameter .. => "W103"

/-- What a warning says. -/
def message : Warning → Chars
  | unknownCommand t => "unknown command: " ++ t
  | parameterDefault t n f e =>
    t ++ "." ++ n ++ ": expected " ++ e ++ ", found " ++ f ++ "; using default"
  | unknownParameter t n => t ++ " has no parameter '" ++ n ++ "'; ignored"

/-- The diagnostic of a warning. -/
def diagnostic (w : Warning) (line : Option Int) : Diagnostic :=
  { code := w.code, message := w.message, severity := .warning, line }

end Warning
end DraftScript
