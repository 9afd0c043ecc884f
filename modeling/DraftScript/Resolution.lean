/-
# Resolving the parameters of a command

Each declared parameter gets the given value, converted, or its default if none is
given. A given value that cannot be converted is replaced by the default, which is
logged and warned of; so is an infinity or `nan` for a parameter of whole numbers.
Parameters that the schema does not declare are warned of first, in the order of the
command, then the unusable ones in the order of the schema.

The log line tells the given value and the default by their literals, so a color that is too
long to be written is a fault there, before the warning.

Warnings go to a collector, behind what it holds, or nowhere if there is none.
-/

import DraftScript.Command
import DraftScript.Event
import DraftScript.Refusal
import DraftScript.Schema

namespace DraftScript

/-- A result with the warnings and the log of the way to it; after a fault they end where
it arose. -/
structure Report (α : Type) where
  result : Except RenderFault α
  warnings : Diagnostics := []
  events : List Event := []

namespace Report

/-- Goes on with a result, and adds to warnings and log. -/
def bind {α β : Type} (r : Report α) (f : α → Report β) : Report β :=
  match r.result with
  | .error e => { result := .error e, warnings := r.warnings, events := r.events }
  | .ok a =>
    let s := f a
    { result := s.result, warnings := r.warnings ++ s.warnings, events := r.events ++ s.events }

instance : Monad Report where
  pure a := { result := .ok a }
  bind := bind

/-- A result or fault without warnings and log. -/
def ofExcept {α : Type} (r : Except RenderFault α) : Report α := { result := r }

/-- Warnings alone, if they are collected. -/
def warn (collected : Bool) (ds : Diagnostics) : Report Unit :=
  { result := .ok (), warnings := if collected then ds else [] }

/-- A line of the log alone. -/
def log (e : Event) : Report Unit := { result := .ok (), events := [e] }

/-- What a collector holds after a report, if there is one: the warnings go behind what it
held. -/
def collect {α : Type} (r : Report α) (collector : Option Diagnostics) : Option Diagnostics :=
  collector.map (· ++ r.warnings)

/-- The results for each of a list, in order, up to the first fault. -/
def each {α β : Type} (f : α → Report β) : List α → Report (List β)
  | [] => pure []
  | a :: as => do
    let b ← f a
    let bs ← each f as
    return b :: bs

end Report

namespace Resolution

/-- The given value as the parameter takes it, if it can be used. -/
def usable? (p : Parameter) (given : Value) : Except RenderFault (Option Value) :=
  match given.coerce? p.kind with
  | none => .ok none
  | some v => if p.integer then v.wholeNumber else .ok (some v)

/-- The warning of an unusable value. -/
def unusable (c : Command) (p : Parameter) (given : Value) : Diagnostic :=
  (Warning.parameterDefault c.type p.name given.kind.name p.kind.name).diagnostic c.line

/-- The value of a declared parameter. -/
def parameter (c : Command) (p : Parameter) (collected : Bool := true) : Report Value :=
  match c.get? p.name with
  | none => pure p.default
  | some given => do
    match ← Report.ofExcept (usable? p given) with
    | some v => return v
    | none =>
      let instead ← Report.ofExcept do return (← given.literal?, ← p.default.literal?)
      Report.log (.valueUnusable c.type p.name instead.1 instead.2)
      Report.warn collected [unusable c p given]
      return p.default

/-- The warnings of parameters that are not declared. -/
def undeclared (s : Schema) (c : Command) : Diagnostics :=
  (c.parameters.filter fun q => !s.parameterNames.contains q.1).map fun q =>
    (Warning.unknownParameter c.type q.1).diagnostic c.line

/-- The values of all declared parameters. -/
def all (s : Schema) (c : Command) (collected : Bool := true) : Report (Assoc Chars Value) := do
  Report.warn collected (undeclared s c)
  let vs ← Report.each (fun p => do return (p.name, ← parameter c p collected)) s.parameters
  return Assoc.ofPairs vs

end Resolution
end DraftScript
