/-
# What the texts of variables cannot change

A line is taken apart before anything is substituted: into its form, its fields, and the
names and raw values of the fields.  Two tables of variables therefore see the same line,
whatever their texts hold, and differ only in the values that they make of its fields
(`read_structure`): one may refuse a literal that the other accepts, and where a field is
no assignment neither accepts the line, though one may refuse a literal before it.
-/

import DraftScript.Proofs.Line.Outcome
import DraftScript.Proofs.Literal.Refusal

namespace DraftScript

/-- Two members of a list are the same one, or one of them stands before the other. -/
theorem eq_or_mem_of_append_cons_eq {α : Type} {xs ys xs' ys' : List α} {x x' : α}
    (h : xs ++ x :: ys = xs' ++ x' :: ys') : x = x' ∨ x ∈ xs' ∨ x' ∈ xs := by
  rcases List.append_eq_append_iff.1 h with ⟨as, rfl, ha⟩ | ⟨as, rfl, ha⟩ <;>
    cases as <;> simp_all

/-! ## Taking apart in one way -/

theorem Field.IsAssignment.unique {f name value name' value' : Chars}
    (h : IsAssignment f name value) (h' : IsAssignment f name' value') :
    name = name' ∧ value = value' := by
  have he := (assignment_eq_ok_iff.2 h).symm.trans (assignment_eq_ok_iff.2 h')
  exact Prod.mk.inj (Except.ok.inj he)

theorem LineForm.IsInvocation.unique {t name arguments name' arguments' : Chars}
    (h : IsInvocation t name arguments) (h' : IsInvocation t name' arguments') :
    name = name' ∧ arguments = arguments' := by
  have he := (invocation?_eq_some_iff.2 h).symm.trans (invocation?_eq_some_iff.2 h')
  exact Prod.mk.inj (Option.some.inj he)

namespace Line

variable {v w : Variables} {l t f : Chars} {line : ℤ} {e : Refusal} {fs : List Chars}
  {rs rs' : List (Chars × Value)} {p p' : Chars × Value}

/-- Two tables give a field the same name. -/
theorem FieldReads.fst_eq (h : FieldReads v f p) (h' : FieldReads w f p') : p.1 = p'.1 := by
  obtain ⟨raw, ha, -⟩ := h
  obtain ⟨raw', ha', -⟩ := h'
  exact (ha.unique ha').1

/-- Two tables give fields the same names. -/
theorem keys_eq_of_fieldReads (h : List.Forall₂ (FieldReads v) fs rs)
    (h' : List.Forall₂ (FieldReads w) fs rs') : Assoc.keys rs = Assoc.keys rs' := by
  induction h generalizing rs' with
  | nil =>
    cases h'
    rfl
  | cons hf _ ih =>
    cases h' with
    | cons hf' hs' => exact congrArg₂ List.cons (hf.fst_eq hf') (ih hs')

/-- A field is refused as no assignment, or for its literal. -/
theorem FieldRefused.code_mem (h : FieldRefused v f e) :
    (∀ name raw, ¬Field.IsAssignment f name raw) ∧ e = .parameter f ∨
      e.code ∈ [("E201" : Chars), "E202", ""] := by
  rcases h with h | ⟨name, raw, -, hr⟩
  · exact .inl h
  · exact .inr (Literal.refusedFor_of_read hr).code_mem

/-! ## Lines without a command -/

/-- Whether what a line gives is settled before a field is read: nothing, or the refusal of
the line as a whole. -/
def IsBeforeFields : Except Refusal (Option Command) → Prop
  | .ok none => True
  | .ok (some _) => False
  | .error e => e.code = "E101" ∨ e.code = "E103"

/-- What is settled before a field is read is the same for all tables. -/
theorem Gives.congr {r : Except Refusal (Option Command)} {b : Assoc Chars Chars}
    (h : Gives v line t r b) (hr : IsBeforeFields r) (w : Variables) :
    ∃ b', Gives w line t r b' := by
  cases h with
  | nothing h => exact ⟨_, .nothing h⟩
  | declared h hb ha hn hx => exact ⟨_, .declared h hb ha hn hx⟩
  | misdeclared h hb => exact ⟨_, .misdeclared h hb⟩
  | command => exact hr.elim
  | refused _ _ _ _ he =>
    rcases he.code_mem with ⟨-, rfl⟩ | hm
    · have hn : ¬(("E102" : Chars) = "E101" ∨ ("E102" : Chars) = "E103") := by decide
      exact absurd hr hn
    · rcases hr with hc | hc <;> exact absurd (hc ▸ hm) (by decide)
  | unknown hn hd hi => exact ⟨_, .unknown hn hd hi⟩

/-! ## Lines with a field that is no assignment -/

/-- Whether `f` is the first field of a line that is no assignment, behind the fields `fs`. -/
def FirstMisformed (l : Chars) (fs : List Chars) (f : Chars) : Prop :=
  (∀ body, ¬LineForm.IsDeclaration (Chars.trim l) body) ∧ ∃ name arguments gs,
    LineForm.IsInvocation (Chars.trim l) name arguments ∧
      Field.split arguments = fs ++ f :: gs ∧
      (∀ g ∈ fs, ∃ p raw, Field.IsAssignment g p raw) ∧ ∀ p raw, ¬Field.IsAssignment f p raw

/-- The fields that give parameters are assignments. -/
theorem isAssignment_of_fieldReads (h : List.Forall₂ (FieldReads v) fs rs) {g : Chars}
    (hg : g ∈ fs) : ∃ p raw, Field.IsAssignment g p raw := by
  induction h with
  | nil => simp at hg
  | cons hf _ ih =>
    rcases List.mem_cons.1 hg with rfl | hg
    · obtain ⟨raw, ha, -⟩ := hf
      exact ⟨_, raw, ha⟩
    · exact ih hg

/-- A line is refused for a parameter because of the first field that is no assignment. -/
theorem exists_firstMisformed (h : (read v l line).result = .error e) (he : e.code = "E102") :
    ∃ fs f, e = .parameter f ∧ FirstMisformed l fs f := by
  obtain ⟨b, -, hg⟩ := exists_gives_of_read h
  cases hg with
  | misdeclared => exact absurd he (by decide : ("E103" : Chars) ≠ "E102")
  | unknown => exact absurd he (by decide : ("E101" : Chars) ≠ "E102")
  | refused hd hi hs hf hr =>
    rcases hr.code_mem with ⟨hn, rfl⟩ | hm
    · exact ⟨_, _, rfl, hd, _, _, _, hi, hs, fun g hg => isAssignment_of_fieldReads hf hg, hn⟩
    · exact absurd (he ▸ hm) (by decide)

/-- **No table accepts a line with a field that is no assignment:** it is refused for the
first such field, or for the literal of one before. -/
theorem FirstMisformed.read_eq (h : FirstMisformed l fs f) (w : Variables) (line : ℤ) :
    (read w l line).result = .error (.parameter f) ∨
      ∃ g ∈ fs, ∃ p raw e, Field.IsAssignment g p raw ∧
        Literal.read (w.substitute raw) = .error e ∧ (read w l line).result = .error e := by
  obtain ⟨hd, name, arguments, gs, hi, hs, hfs, hf⟩ := h
  obtain ⟨r, b, hg⟩ := exists_gives w line (Chars.trim l)
  rw [hg.read_eq.1]
  cases hg with
  | nothing h => exact absurd h (LineForm.not_isNothing_of_isInvocation hi)
  | declared h | misdeclared h => exact absurd h (hd _)
  | unknown _ _ h => exact absurd hi (h _ _)
  | command _ hi' hr =>
    obtain ⟨rfl, rfl⟩ := hi.unique hi'
    obtain ⟨p, raw, ha⟩ := isAssignment_of_fieldReads hr (g := f) (by simp [hs])
    exact absurd ha (hf p raw)
  | @refused name' arguments' f' fs' gs' rs e _ hi' hs' hr he =>
    obtain ⟨rfl, rfl⟩ := hi.unique hi'
    rcases eq_or_mem_of_append_cons_eq (hs.symm.trans hs') with rfl | hm | hm
    · rcases he with ⟨-, rfl⟩ | ⟨p, raw, ha, -⟩
      · exact .inl rfl
      · exact absurd ha (hf p raw)
    · obtain ⟨p, raw, ha⟩ := isAssignment_of_fieldReads hr hm
      exact absurd ha (hf p raw)
    · obtain ⟨p, raw, ha⟩ := hfs f' hm
      rcases he with ⟨hn, -⟩ | ⟨p', raw', ha', hl⟩
      · exact absurd ha (hn p raw)
      · exact .inr ⟨f', hm, p', raw', e, ha', hl, rfl⟩

/-! ## Two tables -/

/-- **Two commands of one line differ in values only.** -/
theorem same_of_read_command {c d : Command} (hc : (read v l line).result = .ok (some c))
    (hd : (read w l line).result = .ok (some d)) :
    c.type = d.type ∧ c.line = d.line ∧ c.parameters.keys = d.parameters.keys := by
  obtain ⟨_, -, hgc⟩ := exists_gives_of_read hc
  obtain ⟨_, -, hgd⟩ := exists_gives_of_read hd
  cases hgc with
  | command _ hi hf =>
    cases hgd with
    | command _ hi' hf' =>
      obtain ⟨rfl, rfl⟩ := hi.unique hi'
      exact ⟨rfl, rfl, Assoc.keys_ofPairs_congr (keys_eq_of_fieldReads hf hf')⟩

/-- What is settled before a field is read, with one table, is so with another. -/
theorem result_read_congr {r : Except Refusal (Option Command)} (hr : IsBeforeFields r)
    (v w : Variables) (l : Chars) (line : ℤ) :
    (read v l line).result = r ↔ (read w l line).result = r := by
  have one {v : Variables} (w : Variables) (h : (read v l line).result = r) :
      (read w l line).result = r := by
    obtain ⟨_, -, hg⟩ := exists_gives_of_read h
    obtain ⟨_, hg'⟩ := hg.congr hr w
    exact hg'.read_eq.1
  exact ⟨one w, one v⟩

/-- **The texts of variables do not change the structure of a line.** With two tables of
variables it alike gives nothing, is no invocation (`E101`), or is no declaration (`E103`);
if it gives two commands, these have the same type, number and names of parameters; and if
one refuses it for a field that is no assignment (`E102`), the other refuses it for that
field, too, or for the literal of an earlier one. -/
theorem read_structure (v w : Variables) (l : Chars) (line : ℤ) :
    ((read v l line).result = .ok none ↔ (read w l line).result = .ok none) ∧
    (∀ e : Refusal, e.code = "E101" ∨ e.code = "E103" →
      ((read v l line).result = .error e ↔ (read w l line).result = .error e)) ∧
    (∀ c d, (read v l line).result = .ok (some c) → (read w l line).result = .ok (some d) →
      c.type = d.type ∧ c.line = d.line ∧ c.parameters.keys = d.parameters.keys) ∧
    ∀ e : Refusal, e.code = "E102" → (read v l line).result = .error e →
      (read w l line).result = .error e ∨
        ∃ fs f, e = .parameter f ∧ FirstMisformed l fs f ∧
          ∃ g ∈ fs, ∃ p raw e', Field.IsAssignment g p raw ∧
            Literal.read (w.substitute raw) = .error e' ∧
              (read w l line).result = .error e' := by
  refine ⟨result_read_congr (r := .ok none) trivial v w l line,
    fun e he => result_read_congr (r := .error e) he v w l line,
    fun c d => same_of_read_command, fun e he h => ?_⟩
  obtain ⟨fs, f, rfl, hf⟩ := exists_firstMisformed h he
  exact (hf.read_eq w line).imp_right fun hl => ⟨fs, f, rfl, hf, hl⟩

/-- A text that would be another field and open a bracket, were it a part of the line, is
the value of its name. -/
theorem read_structure_fields :
    let c : Command := ⟨"BOX", [("n", .number (.ofInt 1)), ("m", .boolean true)], 4⟩
    let d : Command := ⟨"BOX", [("n", .text "2, k=\"[($p"), ("m", .boolean true)], 4⟩
    (read { bindings := [("p", "1")] } "BOX(n=$p, m=true)" 4).result = .ok (some c) ∧
      (read { bindings := [("p", "2, k=\"[($p")] } "BOX(n=$p, m=true)" 4).result = .ok (some d) ∧
      c.type = d.type ∧ c.line = d.line ∧ c.parameters.keys = d.parameters.keys := by
  intro c d
  have hc : (read { bindings := [("p", "1")] } "BOX(n=$p, m=true)" 4).result = .ok (some c) := by
    decide +kernel
  have hd : (read { bindings := [("p", "2, k=\"[($p")] } "BOX(n=$p, m=true)" 4).result =
      .ok (some d) := by
    decide +kernel
  exact ⟨hc, hd, (read_structure _ _ _ _).2.2.1 c d hc hd⟩

end Line
end DraftScript
