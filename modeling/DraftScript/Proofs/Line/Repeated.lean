/-
# Parameters given more than once

An argument list may name a parameter again.  Then the parameter keeps the place of its first
field and takes the value of its last one, and the log tells of every field but the first:

    A(n=1, m=2, n=3)    n = 3, m = 2, and one line for the third field

Every field is read all the same, so a value that a later one replaces has to be a literal, too
(`exists_readArguments_iff`).  What is told at a field depends on the names before it only, so
the lines of the log come of a list of names alone (`events_readFields`).
-/

import DraftScript.Proofs.Line.Outcome
import Mathlib.Data.List.Infix

namespace DraftScript

namespace Line

variable {v w : Variables} {ps : Assoc Chars Value} {f : Chars} {fs : List Chars}
  {p : Chars × Value} {rs : List (Chars × Value)}

theorem FieldReads.congr (h : FieldReads v f p) (hb : v.bindings = w.bindings) :
    FieldReads w f p := by
  obtain ⟨raw, ha, hr⟩ := h
  exact ⟨raw, ha, Variables.substitute_congr hb raw ▸ hr⟩

/-- The names of a list that came before, among some earlier names or in the list itself, each
time that they come. -/
def repeats (earlier names : List Chars) : List Chars :=
  ((names.zip names.inits).filter fun q => q.1 ∈ earlier ++ q.2).map Prod.fst

theorem repeats_cons (earlier names : List Chars) (n : Chars) :
    repeats earlier (n :: names) =
      (if n ∈ earlier then [n] else []) ++ repeats (earlier ++ [n]) names := by
  have ht : ((names.zip (names.inits.map (n :: ·))).filter fun q => q.1 ∈ earlier ++ q.2).map
      Prod.fst = repeats (earlier ++ [n]) names := by
    rw [List.zip_map_right, List.filter_map, List.map_map, repeats]
    simp [Function.comp_def]
  rw [repeats, List.inits_cons, List.zip_cons_cons, List.filter_cons, ← ht]
  by_cases hn : n ∈ earlier <;> simp [hn]

/-- **Fields that are read are told of where their names came before.** -/
theorem events_readFields {earlier : List Chars} (h : List.Forall₂ (FieldReads v) fs rs)
    (he : ∀ n, ps.has n = true ↔ n ∈ earlier) :
    (readFields v ps fs).events = (repeats earlier (Assoc.keys rs)).map .parameterRepeated := by
  induction fs generalizing v ps earlier rs with
  | nil =>
    cases h
    rfl
  | cons f fs ih =>
    obtain ⟨p, rs', hf, hfs, rfl⟩ := List.forall₂_cons_left_iff.1 h
    obtain ⟨raw, ha, hr⟩ := hf
    have hb := (v.bindings_afterSubstitute raw).symm
    have hk : Assoc.keys (p :: rs') = p.1 :: Assoc.keys rs' := rfl
    have hput : ∀ n, (ps.put p.1 p.2).has n = true ↔ n ∈ earlier ++ [p.1] := by
      intro n
      rw [Assoc.has, Assoc.get?_put, List.mem_append, List.mem_singleton, ← he, Assoc.has]
      by_cases hn : p.1 = n
      · simp [hn]
      · simp [hn, Ne.symm hn]
    have ih' := ih (hfs.imp fun _ _ h => h.congr hb) hput
    rw [hk, repeats_cons, List.map_append, ← ih', readFields]
    simp only [Field.assignment_eq_ok_iff.2 ha, hr, ← he]
    split <;> rfl

/-- **An argument list is read when every one of its fields is,** also those whose values are
replaced. -/
theorem exists_readArguments_iff {arguments : Chars} :
    (∃ ps, (readArguments v arguments).result = .ok ps) ↔
      ∀ f ∈ Field.split arguments, ∃ p, FieldReads v f p := by
  rw [← exists_forall₂_iff]
  simp only [result_readArguments_eq_ok_iff]
  constructor
  · rintro ⟨_, rs, h, -⟩
    exact ⟨rs, h⟩
  · rintro ⟨rs, h⟩
    exact ⟨_, rs, h, rfl⟩

/-- **What comes of parameters that are given more than once.**  An argument list is read when
every field is.  Then each name has the place of its first field and the value of its last
one, and the log has one line for each field whose name came in an earlier one, in the order of
the fields, and no other line. -/
theorem readArguments_repeated (v : Variables) (arguments : Chars) :
    ((∃ ps, (readArguments v arguments).result = .ok ps) ↔
      ∀ f ∈ Field.split arguments, ∃ p, FieldReads v f p) ∧
    ∀ ps, (readArguments v arguments).result = .ok ps →
      ∃ rs, List.Forall₂ (FieldReads v) (Field.split arguments) rs ∧
        ps.keys = (Assoc.keys rs).eraseDups ∧
        (∀ before name x after, rs = before ++ (name, x) :: after → name ∉ Assoc.keys after →
          ps.get? name = some x) ∧
        (readArguments v arguments).events =
          (repeats [] (Assoc.keys rs)).map .parameterRepeated := by
  refine ⟨exists_readArguments_iff, fun ps h => ?_⟩
  obtain ⟨rs, hf, rfl⟩ := result_readArguments_eq_ok_iff.1 h
  refine ⟨rs, hf, Assoc.keys_ofPairs rs, ?_, ?_⟩
  · rintro before name x after rfl hn
    exact Assoc.get?_ofPairs_append hn
  · exact events_readFields hf fun n => by simp [Assoc.has, Assoc.get?]

/-- A name three times, in between another one, with a variable and a literal with commas. -/
theorem readArguments_repeated_fields :
    let v : Variables := { bindings := [("r", "2")] }
    let arguments : Chars := "n=1, m=\"x,y\", n=$r, n=[1,2,3]"
    let ps : Assoc Chars Value :=
      [("n", .point (.ofInt 1) (.ofInt 2) (.ofInt 3)), ("m", .text "x,y")]
    (readArguments v arguments).result = .ok ps ∧
      ∃ rs, List.Forall₂ (FieldReads v) (Field.split arguments) rs ∧
        ps.keys = (Assoc.keys rs).eraseDups ∧
        (repeats [] (Assoc.keys rs)).map .parameterRepeated =
          [Event.parameterRepeated "n", .parameterRepeated "n"] := by
  intro v arguments ps
  have h : (readArguments v arguments).result = .ok ps := by decide +kernel
  have hl : (readArguments v arguments).events =
      [.parameterRepeated "n", .parameterRepeated "n"] := by
    decide +kernel
  obtain ⟨rs, hf, hk, -, he⟩ := (readArguments_repeated v arguments).2 ps h
  exact ⟨h, rs, hf, hk, he.symm.trans hl⟩

end Line
end DraftScript
