/-
# The registry of schemas

Schemas by command type, in the order in which the types were first registered; a new
schema of a registered type takes the place of the old one. Types are looked up as they
are written. The categories are those of the registered schemas, each at the place of
its first type.
-/

import DraftScript.Schema

namespace DraftScript

/-- Schemas by command type. -/
structure Registry where
  schemas : Assoc Chars Schema := []

namespace Registry

/-- Registers a schema. -/
def register (r : Registry) (s : Schema) : Registry := ⟨r.schemas.put s.type s⟩

/-- The registry of a list of schemas. -/
def ofList (ss : List Schema) : Registry := ss.foldl register {}

/-- The schema of a command type. -/
def get? (r : Registry) (type : Chars) : Option Schema := r.schemas.get? type

/-- The registered types. -/
def names (r : Registry) : List Chars := r.schemas.keys

/-- Adds a type to the group of its category, a new one if there is none. -/
def addTo (groups : Assoc Chars (List Chars)) (category type : Chars) :
    Assoc Chars (List Chars) :=
  groups.put category ((groups.get? category).getD [] ++ [type])

/-- The types of each category. -/
def categories (r : Registry) : Assoc Chars (List Chars) :=
  r.schemas.foldl (fun groups p => addTo groups p.2.category p.2.type) []

end Registry
end DraftScript
