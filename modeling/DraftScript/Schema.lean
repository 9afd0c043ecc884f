/-
# Command schemas

A schema declares the parameters of a command type, each with a default, and how its block is
rendered: by any function of the resolved parameters, most often a template. The kind of a
parameter is the kind of its default.

A given value is converted to the declared kind where that makes sense:

| from | number | text | boolean |
| --- | --- | --- | --- |
| number | itself | its compact text | whether it is not zero |
| text | if it is a numeral | itself | if it is `true` or `false` |
| boolean | one or zero | `true`, `false` | itself |

Points, vectors and colors take no other kind and convert to none.
-/

import DraftScript.Literal
import DraftScript.Template.Derived

namespace DraftScript

/-- A declared parameter. An `integer` one is cut to a whole number. -/
structure Parameter where
  name : Chars
  default : Value
  integer : Bool := false
  doc : Chars := []
deriving DecidableEq

namespace Parameter

/-- The kind of a parameter. -/
def kind (p : Parameter) : Kind := p.default.kind

/-- Declares a parameter of a kind; the default must be of that kind. -/
def declare? (name : Chars) (kind : Kind) (default : Value) (integer : Bool) (doc : Chars) :
    Option Parameter :=
  if default.kind = kind then some { name, default, integer, doc } else none

/-- What is said of a default of another kind. -/
def mismatch (name : Chars) (kind : Kind) (default : Value) : Chars :=
  "default for '" ++ name ++ "' is " ++ default.kind.name ++ ", expected " ++ kind.name

/-- What a parameter takes, for readers. -/
def kindText (p : Parameter) : Chars := if p.integer then "integer" else p.kind.name

end Parameter

/-- The schema of a command type. -/
structure Schema where
  type : Chars
  parameters : List Parameter
  render : Assoc Chars Value → Except RenderFault Chars
  category : Chars := []
  doc : Chars := []

namespace Schema

/-- The declared parameter of a name, the first if there are several. -/
def parameter? (s : Schema) (name : Chars) : Option Parameter :=
  s.parameters.find? fun p => p.name = name

/-- The names of the parameters. -/
def parameterNames (s : Schema) : List Chars := s.parameters.map (·.name)

/-- The invocation that gives every parameter its default. -/
def usage (s : Schema) : Except RenderFault Chars := do
  let ts ← s.parameters.mapM fun p => p.default.literal?.map fun t => p.name ++ "=" ++ t
  return s.type ++ "(" ++ ", ".toList.intercalate ts ++ ")"

end Schema

namespace Value

/-- The value as one of another kind, where that makes sense. -/
def coerce? (v : Value) (k : Kind) : Option Value :=
  if v.kind = k then some v
  else match k, v with
    | .number, .boolean b => some (.number (.ofInt (if b then 1 else 0)))
    | .number, .text t => (Literal.number? t).map .number
    | .text, .number x => some (.text x.compact)
    | .text, .boolean b => some (.text (truthText b))
    | .boolean, .number x => some (.boolean !x.isZero)
    | .boolean, .text t => (Literal.truth? (Chars.trim t)).map .boolean
    | _, _ => none

/-- A value as a whole number, toward zero; `none` for an infinity or `nan`. -/
def wholeNumber (v : Value) : Except RenderFault (Option Value) :=
  match v with
  | .number x => .ok (x.trunc.map .number)
  | .boolean b => .ok (some (.number (.ofInt (if b then 1 else 0))))
  | .text _ => .error .textAsNumber
  | v => .error (.noAttribute (.value v.kind) "value")

/-- A converted value has the kind that was asked for. -/
theorem kind_of_coerce? {v w : Value} {k : Kind} (h : v.coerce? k = some w) : w.kind = k := by
  unfold coerce? at h
  split at h
  · simp_all
  · split at h <;> simp_all [Option.map_eq_some_iff] <;> grind [kind]

end Value
end DraftScript
