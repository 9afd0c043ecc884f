/-
# The built-in schemas

All built-in schemas in the order in which they are listed, and their registry.
-/

import DraftScript.Catalogue.Annotations
import DraftScript.Catalogue.Curves
import DraftScript.Catalogue.Entities
import DraftScript.Catalogue.Operations
import DraftScript.Catalogue.Solids
import DraftScript.Registry

namespace DraftScript
namespace Catalogue

/-- The built-in types. -/
def entries : List Entry :=
  solidEntries ++ curveEntries ++ annotationEntries ++ dimensionEntries ++ surfaceEntries ++
    blockEntries ++ organizationEntries ++ transformationEntries ++ booleanEntries ++
    visualizationEntries ++ advancedEntries

/-- The built-in schemas. -/
def schemas : List Schema := entries.map Entry.schema

/-- The registry of the built-in schemas. -/
def registry : Registry := .ofList schemas

end Catalogue
end DraftScript
