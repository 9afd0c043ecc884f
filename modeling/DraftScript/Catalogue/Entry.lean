/-
# Writing down a schema

Short forms for the parameters and templates of the built-in schemas. All of them are rendered
by templates, whose derived fields are formulas; an entry holds these as data. A template is a
list of lines; the two lines that append an entity to the drawing end most of them.
-/

import DraftScript.Schema

namespace DraftScript
namespace Catalogue

/-- A parameter that is a number. -/
def number (name : String) (x : Rat) : Parameter :=
  { name, default := .number (.ofRat x) }

/-- A parameter that is a whole number. -/
def count (name : String) (n : Nat) : Parameter :=
  { name, default := .number (.ofInt n), integer := true }

/-- A parameter that is an angle in degrees. -/
def angle (name : String) (x : Rat) : Parameter :=
  { name, default := .number (.ofRat x), doc := "degrees" }

/-- A parameter that is a text. -/
def text (name t : String) : Parameter := { name, default := .text t }

/-- A parameter that is a point. -/
def point (name : String) (x y z : Rat) : Parameter :=
  { name, default := .point (.ofRat x) (.ofRat y) (.ofRat z) }

/-- A parameter that is a point, at the origin unless it is given. -/
def origin (name : String) : Parameter := point name 0 0 0

/-- A parameter that is a vector. -/
def vector (name : String) (x y z : Rat) : Parameter :=
  { name, default := .vector (.ofRat x) (.ofRat y) (.ofRat z) }

/-- A parameter that is a color. -/
def color (name : String) (r g b : Int) : Parameter := { name, default := .color r g b }

/-- The parameter `position`, at the origin unless it is given. -/
def position : Parameter := origin "position"

/-- The parameter `normal`, which points along Z. -/
def normal : Parameter := vector "normal" 0 0 1

/-- A type that is rendered by a template with formulas. -/
structure Entry where
  type : Chars
  parameters : List Parameter
  body : Chars
  derived : List (Chars × Formula)
  category : Chars
  doc : Chars
deriving DecidableEq

namespace Entry

/-- The template of an entry. -/
def template (e : Entry) : BlockTemplate :=
  { body := e.body, derived := e.derived.map fun d => (d.1, d.2.derivation) }

/-- The schema of an entry. -/
def schema (e : Entry) : Schema :=
  { type := e.type, parameters := e.parameters, render := e.template.fill,
    category := e.category, doc := e.doc }

end Entry

/-- A field derived from an angle. -/
def inRadians (name degrees : String) : Chars × Formula := (name, .radians degrees)

/-- The lines that append an entity to the drawing. -/
def append (entity : String) : List String :=
  ["btr.AppendEntity(" ++ entity ++ ");", "tr.AddNewlyCreatedDBObject(" ++ entity ++ ", true);"]

/-- The entry of a type whose template has derived fields. -/
def derivedEntry (type category doc : String) (parameters : List Parameter)
    (body : List String) (derived : List (Chars × Formula)) : Entry :=
  { type, category, doc, parameters, derived, body := Chars.unlines (body.map String.toList) }

/-- The entry of a type. -/
def entry (type category doc : String) (parameters : List Parameter) (body : List String) :
    Entry :=
  derivedEntry type category doc parameters body []

end Catalogue
end DraftScript
