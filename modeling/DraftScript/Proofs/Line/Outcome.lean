/-
# What a line gives

`Line.Gives` lists the outcomes of a line by how the line can be taken apart, without
the functions that do it:

| case | the line, trimmed | result | bindings |
| --- | --- | --- | --- |
| `nothing` | empty, or begins with `//` | nothing | as before |
| `declared` | `VAR`, a blank, a name, the first `=`, a text | nothing | and the new one |
| `misdeclared` | `VAR` and a blank, otherwise | `E103` | as before |
| `command` | `name(fields)`, each field can be read | the command | as before |
| `refused` | `name(fields)`, otherwise | that of the first field that cannot be read | as before |
| `unknown` | otherwise | `E101` | as before |

Reading a line gives exactly what the list says (`gives_iff_read`), so the cases exclude each
other, one of them always holds, and a line that is refused binds nothing.
-/

import DraftScript.Proofs.Chars.Split
import DraftScript.Proofs.Line.Fields
import DraftScript.Proofs.Line.Forms

namespace DraftScript

namespace Field

variable {f name value : Chars}

/-- Whether a field is `name=value`: it has one equals sign, and before it a name that is
not blank. -/
def IsAssignment (f name value : Chars) : Prop :=
  ∃ a b, f = a ++ '=' :: b ∧ '=' ∉ a ∧ '=' ∉ b ∧ Chars.trim a = name ∧ Chars.trim b = value ∧
    name ≠ []

theorem assignment_eq_ok_iff : assignment f = .ok (name, value) ↔ IsAssignment f name value := by
  constructor
  · intro h
    unfold assignment at h
    split at h
    · next a b hs =>
      split at h
      · simp at h
      · next hne =>
        obtain ⟨rfl, rfl⟩ := Prod.mk.inj (Except.ok.inj h)
        obtain ⟨hf, ha, hb⟩ := Chars.splitOn_eq_pair_iff.1 hs
        exact ⟨a, b, hf, ha, hb, rfl, rfl, hne⟩
    · simp at h
  · rintro ⟨a, b, hf, ha, hb, rfl, rfl, hne⟩
    rw [assignment, Chars.splitOn_eq_pair_iff.2 ⟨hf, ha, hb⟩]
    simp only [if_neg hne]

theorem assignment_eq_error_iff {e : Refusal} :
    assignment f = .error e ↔ (∀ name value, ¬IsAssignment f name value) ∧ e = .parameter f := by
  have hp : ∀ e', assignment f = .error e' → e' = .parameter f := by
    intro e' h
    unfold assignment at h
    split at h
    · split at h
      · exact (Except.error.inj h).symm
      · simp at h
    · exact (Except.error.inj h).symm
  constructor
  · intro h
    refine ⟨fun n x hx => ?_, hp e h⟩
    rw [assignment_eq_ok_iff.2 hx] at h
    simp at h
  · rintro ⟨hn, rfl⟩
    cases h : assignment f with
    | error e => rw [hp e h]
    | ok p => exact absurd (assignment_eq_ok_iff.1 h) (hn p.1 p.2)

end Field

namespace Line

variable {v : Variables} {line : ℤ} {t f : Chars} {p : Chars × Value} {e : Refusal}

/-- Whether a field gives a parameter: it is `name=value`, and its value, after
substitution, is a literal. -/
def FieldReads (v : Variables) (f : Chars) (p : Chars × Value) : Prop :=
  ∃ raw, Field.IsAssignment f p.1 raw ∧ Literal.read (v.substitute raw) = .ok p.2

/-- Whether a field is refused for a cause: it is not `name=value`, or its value, after
substitution, is refused. -/
def FieldRefused (v : Variables) (f : Chars) (e : Refusal) : Prop :=
  ((∀ name raw, ¬Field.IsAssignment f name raw) ∧ e = .parameter f) ∨
    ∃ name raw, Field.IsAssignment f name raw ∧ Literal.read (v.substitute raw) = .error e

theorem readField_eq_ok_iff : readField v f = .ok p ↔ FieldReads v f p := by
  obtain ⟨name, x⟩ := p
  constructor
  · intro h
    cases ha : Field.assignment f with
    | error e => simp [readField, ha, bind, Except.bind] at h
    | ok q =>
      cases hx : Literal.read (v.substitute q.2) with
      | error e => simp [readField, ha, hx, bind, Except.bind] at h
      | ok y =>
        simp only [readField, ha, hx, bind, Except.bind, pure, Except.pure, Except.ok.injEq,
          Prod.mk.injEq] at h
        obtain ⟨rfl, rfl⟩ := h
        exact ⟨q.2, Field.assignment_eq_ok_iff.1 ha, hx⟩
  · rintro ⟨raw, ha, hx⟩
    simp only [readField, Field.assignment_eq_ok_iff.2 ha, bind, Except.bind, hx]
    rfl

theorem readField_eq_error_iff : readField v f = .error e ↔ FieldRefused v f e := by
  constructor
  · intro h
    cases ha : Field.assignment f with
    | error e' =>
      simp only [readField, ha, bind, Except.bind, Except.error.injEq] at h
      exact Or.inl (Field.assignment_eq_error_iff.1 (h ▸ ha))
    | ok q =>
      refine Or.inr ⟨q.1, q.2, Field.assignment_eq_ok_iff.1 ha, ?_⟩
      cases hx : Literal.read (v.substitute q.2) with
      | error e' =>
        simp only [readField, ha, hx, bind, Except.bind, Except.error.injEq] at h
        rw [h]
      | ok y => simp [readField, ha, hx, bind, Except.bind, pure, Except.pure] at h
  · rintro (⟨hn, rfl⟩ | ⟨name, raw, ha, hx⟩)
    · simp [readField, Field.assignment_eq_error_iff.2 ⟨hn, rfl⟩, bind, Except.bind]
    · simp [readField, Field.assignment_eq_ok_iff.2 ha, hx, bind, Except.bind]

theorem forall₂_readField_iff {fs : List Chars} {rs : List (Chars × Value)} :
    List.Forall₂ (fun f p => readField v f = .ok p) fs rs ↔ List.Forall₂ (FieldReads v) fs rs := by
  simp only [readField_eq_ok_iff]

/-- An argument list is read when all its fields are. -/
theorem result_readArguments_eq_ok_iff {arguments : Chars} {ps : Assoc Chars Value} :
    (readArguments v arguments).result = .ok ps ↔
      ∃ rs, List.Forall₂ (FieldReads v) (Field.split arguments) rs ∧ ps = Assoc.ofPairs rs := by
  rw [result_readArguments]
  constructor
  · intro h
    cases hm : (Field.split arguments).mapM (readField v) with
    | error e => simp [hm, Except.map] at h
    | ok rs =>
      rw [hm, Except.map, Except.ok.injEq] at h
      exact ⟨rs, forall₂_readField_iff.1 (mapM_eq_ok_iff.1 hm), h.symm⟩
  · rintro ⟨rs, hf, rfl⟩
    rw [mapM_eq_ok_iff.2 (forall₂_readField_iff.2 hf)]
    rfl

/-- An argument list is refused for the first field that is. -/
theorem result_readArguments_eq_error_iff {arguments : Chars} :
    (readArguments v arguments).result = .error e ↔ ∃ fs f gs rs,
      Field.split arguments = fs ++ f :: gs ∧ List.Forall₂ (FieldReads v) fs rs ∧
        FieldRefused v f e := by
  have hm : (Field.split arguments).mapM (readField v) = .error e ↔
      ((Field.split arguments).mapM (readField v)).map Assoc.ofPairs = .error e := by
    cases (Field.split arguments).mapM (readField v) <;> simp [Except.map]
  rw [result_readArguments, ← hm, mapM_eq_error_iff]
  simp only [forall₂_readField_iff, readField_eq_error_iff]

/-- What a trimmed line gives at a line number: a result, and the bindings afterwards. -/
inductive Gives (v : Variables) (line : ℤ) (t : Chars) :
    Except Refusal (Option Command) → Assoc Chars Chars → Prop
  | nothing (h : LineForm.IsNothing t) : Gives v line t (.ok none) v.bindings
  | declared {body a b : Chars} (h : LineForm.IsDeclaration t body) (hb : body = a ++ '=' :: b)
      (ha : '=' ∉ a) (hn : isName (Chars.trim a) = true) (hx : Chars.trim b ≠ []) :
      Gives v line t (.ok none) (v.bindings.put (Chars.trim a) (Chars.trim b))
  | misdeclared {body : Chars} (h : LineForm.IsDeclaration t body)
      (hb : ∀ a b, body = a ++ '=' :: b → '=' ∉ a →
        ¬(isName (Chars.trim a) = true ∧ Chars.trim b ≠ [])) :
      Gives v line t (.error (.declaration t)) v.bindings
  | command {name arguments : Chars} {rs : List (Chars × Value)}
      (hd : ∀ body, ¬LineForm.IsDeclaration t body)
      (h : LineForm.IsInvocation t name arguments)
      (hf : List.Forall₂ (FieldReads v) (Field.split arguments) rs) :
      Gives v line t
        (.ok (some { type := name.map Char.toUpper, parameters := Assoc.ofPairs rs, line }))
        v.bindings
  | refused {name arguments f : Chars} {fs gs : List Chars} {rs : List (Chars × Value)}
      {e : Refusal} (hd : ∀ body, ¬LineForm.IsDeclaration t body)
      (h : LineForm.IsInvocation t name arguments)
      (hs : Field.split arguments = fs ++ f :: gs) (hf : List.Forall₂ (FieldReads v) fs rs)
      (he : FieldRefused v f e) : Gives v line t (.error e) v.bindings
  | unknown (hn : ¬LineForm.IsNothing t) (hd : ∀ body, ¬LineForm.IsDeclaration t body)
      (hi : ∀ name arguments, ¬LineForm.IsInvocation t name arguments) :
      Gives v line t (.error (.command t)) v.bindings

/-! ## Reading by form -/

theorem readDeclaration_of_eq {body a b : Chars} (hb : body = a ++ '=' :: b) (ha : '=' ∉ a)
    (hn : isName (Chars.trim a) = true) (hx : Chars.trim b ≠ []) :
    (readDeclaration v t body).result = .ok none ∧
      (readDeclaration v t body).scope.bindings =
        v.bindings.put (Chars.trim a) (Chars.trim b) := by
  simp only [readDeclaration, Chars.cutAt_eq_some_iff.2 ⟨hb, ha⟩, if_neg hx, Variables.define?,
    if_pos hn, and_self]

theorem readDeclaration_of_not {body : Chars}
    (hb : ∀ a b, body = a ++ '=' :: b → '=' ∉ a →
      ¬(isName (Chars.trim a) = true ∧ Chars.trim b ≠ [])) :
    (readDeclaration v t body).result = .error (.declaration t) ∧
      (readDeclaration v t body).scope = v := by
  rw [readDeclaration]
  cases hc : Chars.cutAt '=' body with
  | none => exact ⟨rfl, rfl⟩
  | some p =>
    have hnot := hb p.1 p.2 (Chars.cutAt_eq_some_iff.1 hc).1 (Chars.cutAt_eq_some_iff.1 hc).2
    rw [not_and', ne_eq] at hnot
    by_cases hx : Chars.trim p.2 = []
    · simp [hx]
    · simp [hx, Variables.define?, hnot hx]

theorem readInvocation_eq (v : Variables) (line : ℤ) (name arguments : Chars) :
    (readInvocation v line name arguments).result =
      ((readArguments v arguments).result.map fun ps =>
        some { type := name.map Char.toUpper, parameters := ps, line }) ∧
      (readInvocation v line name arguments).scope.bindings = v.bindings := by
  have hs := bindings_readFields v [] (Field.split arguments)
  rw [readInvocation]
  dsimp only
  split
  · next e he => exact ⟨by rw [he]; rfl, hs⟩
  · next ps hp => exact ⟨by rw [hp]; rfl, hs⟩

/-- A line with a parenthesis right behind a name is read as an invocation. -/
theorem result_read_invocation {name : Chars} (hn : isName name = true) (arguments : Chars) :
    (read v (name ++ '(' :: (arguments ++ [')'])) line).result =
      (readArguments v arguments).result.map fun ps =>
        some { type := name.map Char.toUpper, parameters := ps, line } := by
  have hi : LineForm.IsInvocation (name ++ '(' :: (arguments ++ [')'])) name arguments :=
    ⟨hn, [], by simp, by simp⟩
  rw [read, LineForm.trim_invocation hn,
    LineForm.of_of_isInvocation (LineForm.not_isDeclaration_of_isName hn) hi]
  exact (readInvocation_eq ..).1

/-! ## The outcomes are those of the list -/

/-- What the list says is what reading gives. -/
theorem Gives.read_eq {l : Chars} {r : Except Refusal (Option Command)} {b : Assoc Chars Chars}
    (h : Gives v line (Chars.trim l) r b) :
    (read v l line).result = r ∧ (read v l line).scope.bindings = b := by
  rw [read]
  cases h with
  | nothing h =>
    rw [LineForm.of_of_isNothing h]
    exact ⟨rfl, rfl⟩
  | declared h hb ha hn hx =>
    rw [LineForm.of_of_isDeclaration h]
    exact readDeclaration_of_eq hb ha hn hx
  | misdeclared h hb =>
    rw [LineForm.of_of_isDeclaration h]
    obtain ⟨hr, hs⟩ := readDeclaration_of_not (v := v) (t := Chars.trim l) hb
    exact ⟨hr, congrArg Variables.bindings hs⟩
  | command hd h hf =>
    rw [LineForm.of_of_isInvocation hd h]
    obtain ⟨hr, hs⟩ := readInvocation_eq v line _ _
    refine ⟨?_, hs⟩
    rw [hr, result_readArguments_eq_ok_iff.2 ⟨_, hf, rfl⟩]
    rfl
  | refused hd h hsp hf he =>
    rw [LineForm.of_of_isInvocation hd h]
    obtain ⟨hr, hs⟩ := readInvocation_eq v line _ _
    refine ⟨?_, hs⟩
    rw [hr, result_readArguments_eq_error_iff.2 ⟨_, _, _, _, hsp, hf, he⟩]
    rfl
  | unknown hn hd hi =>
    rw [LineForm.of_of_not hn hd hi]
    exact ⟨rfl, rfl⟩

/-- Every line has an outcome of the list. -/
theorem exists_gives (v : Variables) (line : ℤ) (t : Chars) : ∃ r b, Gives v line t r b := by
  by_cases hn : LineForm.IsNothing t
  · exact ⟨_, _, .nothing hn⟩
  by_cases hd : ∃ body, LineForm.IsDeclaration t body
  · obtain ⟨body, hd⟩ := hd
    by_cases hb : ∃ a b, body = a ++ '=' :: b ∧ '=' ∉ a ∧
        isName (Chars.trim a) = true ∧ Chars.trim b ≠ []
    · obtain ⟨a, b, hb, ha, hname, hx⟩ := hb
      exact ⟨_, _, .declared hd hb ha hname hx⟩
    · exact ⟨_, _, .misdeclared hd fun a b h ha hp => hb ⟨a, b, h, ha, hp.1, hp.2⟩⟩
  rw [not_exists] at hd
  by_cases hi : ∃ name arguments, LineForm.IsInvocation t name arguments
  · obtain ⟨name, arguments, hi⟩ := hi
    cases hr : (readArguments v arguments).result with
    | ok ps =>
      obtain ⟨rs, hf, -⟩ := result_readArguments_eq_ok_iff.1 hr
      exact ⟨_, _, .command hd hi hf⟩
    | error e =>
      obtain ⟨fs, f, gs, rs, hs, hf, he⟩ := result_readArguments_eq_error_iff.1 hr
      exact ⟨_, _, .refused hd hi hs hf he⟩
  · simp only [not_exists] at hi
    exact ⟨_, _, .unknown hn hd hi⟩

/-- What reading a line gives is of the list. -/
theorem exists_gives_of_read {l : Chars} {r : Except Refusal (Option Command)}
    (h : (read v l line).result = r) :
    ∃ b, (read v l line).scope.bindings = b ∧ Gives v line (Chars.trim l) r b := by
  obtain ⟨r', b, hg⟩ := exists_gives v line (Chars.trim l)
  obtain ⟨hr, hb⟩ := hg.read_eq
  obtain rfl := hr.symm.trans h
  exact ⟨b, hb, hg⟩

/-- **Reading a line gives what the list says, and nothing else.** -/
theorem gives_iff_read (v : Variables) (l : Chars) (line : ℤ)
    (r : Except Refusal (Option Command)) (b : Assoc Chars Chars) :
    Gives v line (Chars.trim l) r b ↔
      (read v l line).result = r ∧ (read v l line).scope.bindings = b := by
  constructor
  · exact Gives.read_eq
  · rintro ⟨rfl, rfl⟩
    obtain ⟨r, b, h⟩ := exists_gives v line (Chars.trim l)
    obtain ⟨hr, hb⟩ := h.read_eq
    rw [hr, hb]
    exact h

end Line
end DraftScript
