/-
# Derived fields

A template may show what follows from the parameters. A derivation is any function of the
parameters, which it alone sees; where it has the name of a parameter it takes that field over.
Two formulas are at hand: an angle in radians, and the vector from one point to another.

All parameters are viewed before the first field is derived, whether or not the template shows
them.
-/

import DraftScript.Template.Basic

namespace DraftScript

/-- A way to derive a value from parameters. -/
abbrev Derivation := Assoc Chars Value → Except RenderFault Value

/-- A formula for a derived value, with the names of the parameters that it takes. -/
inductive Formula where
  | radians (degrees : Chars)
  | displacement (start stop : Chars)
deriving DecidableEq, Repr

namespace Formula

/-- The value of a parameter. -/
def parameter (ps : Assoc Chars Value) (name : Chars) : Except RenderFault Value :=
  match ps.get? name with
  | some v => .ok v
  | none => .error (.missing name)

/-- A value as an angle; a truth value counts as one or zero. -/
def angle : Value → Except RenderFault Binary64
  | .number x => .ok x
  | .boolean b => .ok (.ofInt (if b then 1 else 0))
  | .text _ => .error .textAsFactor
  | v => .error (.noAttribute (.value v.kind) "value")

/-- The coordinates of a point or vector. -/
def coordinates : Value → Except RenderFault (Binary64 × Binary64 × Binary64)
  | .point x y z | .vector x y z => .ok (x, y, z)
  | v => .error (.noAttribute (.value v.kind) "x")

/-- The value by a formula. -/
def eval (ps : Assoc Chars Value) : Formula → Except RenderFault Value
  | radians n => do
    let v ← parameter ps n
    let x ← angle v
    return .number x.radians
  | displacement start stop => do
    let a ← parameter ps start
    let b ← parameter ps stop
    let (x', y', z') ← coordinates b
    let (x, y, z) ← coordinates a
    return .vector (x'.sub x) (y'.sub y) (z'.sub z)

/-- A formula as a derivation. -/
def derivation (f : Formula) : Derivation := fun ps => f.eval ps

end Formula

/-- A template with its derived fields, and where the views of its fields lie. -/
structure BlockTemplate where
  body : Chars
  derived : Assoc Chars Derivation := []
  address : Chars → Nat := fun _ => 0

namespace BlockTemplate

/-- The view of a derived field. -/
def derive (ps : Assoc Chars Value) (d : Derivation) : Except RenderFault View := do
  let v ← d ps
  v.view

/-- The fields: the parameters, and in place of them or after them what is derived. -/
def fields (t : BlockTemplate) (ps : Assoc Chars Value) :
    Except RenderFault (Assoc Chars View) := do
  let views ← ps.mapM fun p => p.2.view.map (p.1, ·)
  let derived ← t.derived.mapM fun d => (derive ps d.2).map (d.1, ·)
  return derived.foldl (fun a p => a.put p.1 p.2) views

/-- The text of the template for resolved parameters. -/
def fill (t : BlockTemplate) (ps : Assoc Chars Value) : Except RenderFault Chars := do
  Template.fill t.address (← t.fields ps) t.body

end BlockTemplate
end DraftScript
