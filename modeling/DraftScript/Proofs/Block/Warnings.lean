/-
# What rendering a command warns of

`doubts` lists what is doubtful about a command:

| warning | of |
| --- | --- |
| `W101` | a type that is not registered |
| `W103` | a parameter that the schema does not declare |
| `W102` | a declared parameter that refuses the given value |

Rendering adds exactly these to a collector, behind what it held, and gives the same text
without one, as long as the log can tell of each default that stands in for a given value
(`isTold`).  So where nothing is added the block shows the given values, converted, and no default
in place of one.  Where the log cannot tell of one, since that default or the given value is a
color with a channel of too many digits, rendering fails before the warning of it
(`render_warnings`).
-/

import DraftScript.Block
import DraftScript.Catalogue
import DraftScript.Proofs.Resolution.Values
import Mathlib.Data.List.TakeWhile

namespace DraftScript

/-- Whether all schemas of a registry are coherent. -/
def Registry.Coherent (r : Registry) : Prop := ∀ q ∈ r.schemas, q.2.Coherent

instance (r : Registry) : Decidable r.Coherent := inferInstanceAs (Decidable (∀ _ ∈ _, _))

theorem Registry.Coherent.get? {r : Registry} (hr : r.Coherent) {type : Chars} {s : Schema}
    (h : r.get? type = some s) : s.Coherent := hr _ (Assoc.mem_of_get? h)

namespace Block

variable {r : Registry} {c : Command} {s : Schema}

/-- Nothing else than resolving the parameters warns of a registered type. -/
theorem warnings_render_of_get? (hs : r.get? c.type = some s) (margin : Chars)
    (collected : Bool) :
    (render r margin c collected).warnings = (Resolution.all s c collected).warnings := by
  rw [render, Report.warnings_bind_pure, text, hs]
  dsimp only
  cases hv : (Resolution.all s c collected).result with
  | error e => rw [Report.bind_eq_of_error hv]
  | ok values =>
    rw [Report.bind_eq_of_ok hv, Report.warnings_bind_pure]
    exact List.append_nil _

end Block
end DraftScript
