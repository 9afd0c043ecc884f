/-
# What is logged

Every step that is worth a line in the log is an event, with a level, the part of the
program that reports it, and a message.
-/

import DraftScript.Chars.Basic

namespace DraftScript

/-- How much an event matters; the order is by rank. -/
inductive Level where
  | debug | info | warning | error | critical
deriving DecidableEq, Repr

namespace Level

/-- The rank of a level. -/
def rank : Level → Nat
  | debug => 10
  | info => 20
  | warning => 30
  | error => 40
  | critical => 50

/-- The name of a level. -/
def name : Level → Chars
  | debug => "DEBUG"
  | info => "INFO"
  | warning => "WARNING"
  | error => "ERROR"
  | critical => "CRITICAL"

end Level

/-- A step that the log shows. -/
inductive Event where
  | variableBound (name text : Chars)
  | variableRebound (name text old : Chars)
  | parameterRepeated (name : Chars)
  | commandRead (type : Chars) (parameters : Nat)
  | scriptRead (commands lines : Nat)
  | valueUnusable (type name given default : Chars)
  | schemaMissing (type : Chars)
  | sessionCleared
deriving DecidableEq, Repr

namespace Event

/-- The level of an event. -/
def level : Event → Level
  | variableRebound .. | parameterRepeated _ => .warning
  | _ => .debug

/-- The part of the program that reports an event. -/
def reporter : Event → Chars
  | variableBound .. | variableRebound .. => "cadscript.variables"
  | parameterRepeated _ | commandRead .. | scriptRead .. => "cadscript.parser"
  | valueUnusable .. | schemaMissing _ => "cadscript.emit.registry"
  | sessionCleared => "cadscript.session"

/-- The message of an event. -/
def message : Event → Chars
  | variableBound n t => "Variable " ++ n ++ " = " ++ t
  | variableRebound n t old => "Redefined: $" ++ n ++ " = " ++ t ++ " (was " ++ old ++ ")"
  | parameterRepeated n => "Parameter '" ++ n ++ "' given more than once; last value wins"
  | commandRead t n => "Parsed: " ++ t ++ " with " ++ Chars.ofNat n ++ " parameters"
  | scriptRead c l =>
    "Parsed " ++ Chars.ofNat c ++ " command(s) from " ++ Chars.ofNat l ++ " line(s)"
  | valueUnusable t n given default =>
    t ++ "." ++ n ++ ": cannot use " ++ given ++ ", falling back to " ++ default
  | schemaMissing t => "No schema for " ++ t
  | sessionCleared => "Session cleared"

/-- The line of an event in the log. -/
def text (e : Event) : Chars := e.level.name ++ " " ++ e.reporter ++ ": " ++ e.message

end Event
end DraftScript
