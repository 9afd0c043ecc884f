/-
# How the fields of an argument list are read

The fields are read one after another, each with the variables that the ones before it
left.  These differ only in the order of names that they keep, so a field is read the
same wherever it stands (`readField`), and reading a list is reading its fields up to
the first that is refused (`result_readFields`).  No field binds a variable
(`bindings_readFields`).
-/

import DraftScript.Line
import DraftScript.Proofs.Steps
import DraftScript.Proofs.Variables.Expansion

namespace DraftScript

namespace Variables

/-- What a substitution gives depends on the bindings only. -/
theorem substitute_congr {v w : Variables} (h : v.bindings = w.bindings) (t : Chars) :
    v.substitute t = w.substitute t := by
  rw [substitute_eq_expand, substitute_eq_expand]
  congr 1
  funext n
  rw [get?, get?, h]

end Variables

namespace Line

variable {v w : Variables} {ps : Assoc Chars Value} {fs : List Chars}

/-- The parameter that a field gives: its name, and its value after substitution. -/
def readField (v : Variables) (f : Chars) : Except Refusal (Chars × Value) := do
  let (name, raw) ← Field.assignment f
  let value ← Literal.read (v.substitute raw)
  return (name, value)

theorem readField_congr (h : v.bindings = w.bindings) : readField v = readField w := by
  funext f
  simp only [readField, Variables.substitute_congr h]

/-- Adds parameters to those that are there, in order. -/
def putAll (ps : Assoc Chars Value) (rs : List (Chars × Value)) : Assoc Chars Value :=
  rs.foldl (fun a p => a.put p.1 p.2) ps

/-- **Fields are read up to the first that is refused.** -/
theorem result_readFields (v : Variables) (ps : Assoc Chars Value) (fs : List Chars) :
    (readFields v ps fs).result = (fs.mapM (readField v)).map (putAll ps) := by
  induction fs generalizing v ps with
  | nil => rfl
  | cons f fs ih =>
    rw [List.mapM_cons, readFields]
    cases ha : Field.assignment f with
    | error e => simp [readField, ha, bind, Except.bind, Except.map]
    | ok p =>
      cases hv : Literal.read (v.substitute p.2) with
      | error e => simp [readField, ha, hv, bind, Except.bind, Except.map]
      | ok x =>
        have hc := readField_congr (v.bindings_afterSubstitute p.2)
        simp only [hv, ih, hc]
        cases hl : fs.mapM (readField v) <;>
          simp [readField, ha, hv, bind, Except.bind, pure, Except.pure, Except.map, putAll]

/-- **No field binds a variable,** whether it is read or refused. -/
theorem bindings_readFields (v : Variables) (ps : Assoc Chars Value) (fs : List Chars) :
    (readFields v ps fs).scope.bindings = v.bindings := by
  induction fs generalizing v ps with
  | nil => rfl
  | cons f fs ih =>
    rw [readFields]
    split
    · rfl
    · next name raw _ =>
      dsimp only
      split
      · exact v.bindings_afterSubstitute raw
      · exact (ih _ _).trans (v.bindings_afterSubstitute raw)

theorem result_readArguments (v : Variables) (arguments : Chars) :
    (readArguments v arguments).result =
      ((Field.split arguments).mapM (readField v)).map Assoc.ofPairs :=
  result_readFields v [] _

end Line
end DraftScript
