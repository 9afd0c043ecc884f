/-
# Variables and their texts in place

A variable in a value may as well be written out.  The two lines

    NAME(a, p=$n, b)
    NAME(a, p=text, b)

are read alike if `n` is bound to the text and the text can stand where it is put
(`Variables.StandsFor`): it is trimmed and closed, holds no equals sign, and nothing in it is
itself replaced.

Neither the name nor the text opens or closes anything for what stands before and behind the
field, so the other fields are the same in both lines (`Field.exists_split_eq`).  The field
itself gives the same in both, since `$n` gives way to the whole text and the text stays as
it is (`substitute_name`, `substitute_text`).
-/

import DraftScript.Proofs.Field.Joining
import DraftScript.Proofs.Line.Source

namespace DraftScript

/-! ## A name and its text -/

namespace Variables

/-- Whether a text can be written in place of a name that is bound to it. -/
structure StandsFor (v : Variables) (n x : Chars) : Prop where
  isName : isName n = true
  bound : v.get? n = some x
  trim_eq : Chars.trim x = x
  not_mem_equals : '=' ∉ x
  not_mem_dollar : '$' ∉ x
  closed : Field.Closed x

end Variables

/-! ## One field in place of another -/

namespace Command

variable {n : Chars}

/-- A name can name a parameter. -/
theorem isFieldName_of_isName (h : isName n = true) : IsFieldName n := by
  have hc : ['=', ',', '"', '[', ']', '(', ')'].all (fun d => !isNameChar d) = true := by decide
  have hne : n ≠ [] := by
    rintro rfl
    cases h
  refine ⟨hne, trim_of_isName h, fun d hd hm => not_mem_of_isName h ?_ hd⟩
  simpa using List.all_eq_true.1 hc d hm

/-- So can a name with a `$`: it holds nothing either that the splitting of fields looks
at. -/
theorem isFieldName_dollar (h : isName n = true) : IsFieldName ('$' :: n) := by
  refine ⟨by simp, Chars.trim_eq_self ?_, ?_⟩
  · exact List.forall_mem_cons.2 ⟨by decide, fun c hc =>
      LineForm.isBlank_of_isNameChar (LineForm.isNameChar_of_mem_isName h c hc)⟩
  · exact List.forall_mem_cons.2 ⟨by decide, (isFieldName_of_isName h).2.2⟩

end Command

namespace Line

variable {v : Variables} {line : ℤ} {name a b f g p n x l r : Chars}

/-- What a field gives is settled by its value after substitution. -/
theorem readField_of_isAssignment (h : Field.IsAssignment f p x) :
    readField v f = (Literal.read (v.substitute x)).map (p, ·) := by
  rw [readField, Field.assignment_eq_ok_iff.2 h]
  cases hx : Literal.read (v.substitute x) <;> simp [hx, bind, Except.bind, Except.map, pure,
    Except.pure]

/-- **A field may give way to one that gives the same,** wherever it stands, if both are
closed and not blank. -/
theorem result_readArguments_congr (ha : Field.BeginsBehind a) (hb : Field.EndsBefore b)
    (hf : Field.Closed f) (hg : Field.Closed g) (hf₀ : Chars.trim f ≠ [])
    (hg₀ : Chars.trim g ≠ []) (h : readField v (Chars.trim f) = readField v (Chars.trim g)) :
    (readArguments v (a ++ f ++ b)).result = (readArguments v (a ++ g ++ b)).result := by
  obtain ⟨ts, us, hs⟩ := Field.exists_split_eq ha hb
  rw [result_readArguments, result_readArguments, hs f hf hf₀, hs g hg hg₀, List.mapM_append,
    List.mapM_append, List.mapM_cons, List.mapM_cons, h]

/-- Blanks around a field with a closed value are not seen, and leave it closed. -/
theorem closed_and_trim_eq (hp : Command.IsFieldName p) (hx : Field.Closed x)
    (ht : Chars.trim x = x) (hl : ∀ c ∈ l, Chars.isBlank c = true)
    (hr : ∀ c ∈ r, Chars.isBlank c = true) :
    Field.Closed (l ++ (p ++ '=' :: x) ++ r) ∧
      Chars.trim (l ++ (p ++ '=' :: x) ++ r) = p ++ '=' :: x := by
  have htrim : Chars.trim (l ++ (p ++ '=' :: x) ++ r) = p ++ '=' :: x :=
    (Chars.trim_append_of_blank hl hr).trans (hp.trim_eq ht)
  refine ⟨?_, htrim⟩
  rw [← Field.closed_trim_iff, htrim]
  exact hp.closed hx

/-- The line that invokes a name with a field `p=x`, behind a text and before another. -/
def fieldLine (name a p x b : Chars) : Chars :=
  name ++ '(' :: (a ++ (p ++ '=' :: x) ++ b ++ [')'])

/-- **Writing a variable is writing its text in place.**  A line with the field `p=$n` gives
the same command, or is refused for the same cause, as the line with the text that `n` is
bound to, whatever fields stand before and behind it and whatever blanks around it. -/
theorem read_text_in_place (hname : isName name = true) (hp : isName p = true)
    (hx : v.StandsFor n x) (ha : Field.BeginsBehind a) (hb : Field.EndsBefore b)
    (hl : ∀ c ∈ l, Chars.isBlank c = true) (hr : ∀ c ∈ r, Chars.isBlank c = true) :
    (read v (fieldLine name (a ++ l) p ('$' :: n) (r ++ b)) line).result =
      (read v (fieldLine name (a ++ l) p x (r ++ b)) line).result := by
  have hf := Command.isFieldName_of_isName hp
  have hd := Command.isFieldName_dollar hx.isName
  have hcd : Field.Closed ('$' :: n) := .of_isFlat hd.isFlat hd.not_mem.2
  -- The two fields, each with the blanks around it.
  obtain ⟨hcf, htf⟩ := closed_and_trim_eq hf hcd hd.2.1 hl hr
  obtain ⟨hcg, htg⟩ := closed_and_trim_eq hf hx.closed hx.trim_eq hl hr
  have hread : readField v (p ++ '=' :: '$' :: n) = readField v (p ++ '=' :: x) := by
    rw [readField_of_isAssignment (hf.isAssignment hd.not_mem.1 hd.2.1),
      readField_of_isAssignment (hf.isAssignment hx.not_mem_equals hx.trim_eq),
      Variables.substitute_name hx.bound, Variables.substitute_text hx.not_mem_dollar]
  have hsame := result_readArguments_congr ha hb hcf hcg (by rw [htf]; simp) (by rw [htg]; simp)
    (by rw [htf, htg, hread])
  have hassoc : ∀ y : Chars, fieldLine name (a ++ l) p y (r ++ b) =
      name ++ '(' :: (a ++ (l ++ (p ++ '=' :: y) ++ r) ++ b ++ [')']) := by
    intro y
    simp [fieldLine]
  rw [hassoc, hassoc, result_read_invocation hname, result_read_invocation hname, hsame]

/-- A point, bound to a name that begins with that of another variable, between two other
fields. -/
theorem read_point_in_place :
    let v : Variables := { bindings := [("a", "x"), ("ab", "[1, 2,3]")] }
    (read v "BOX(w=1, at=$ab , h=2)" 4).result =
      (read v "BOX(w=1, at=[1, 2,3] , h=2)" 4).result := by
  intro v
  have hn : "BOX(w=1, at=$ab , h=2)".toList =
      fieldLine "BOX" ("w=1,".toList ++ [' ']) "at" ('$' :: "ab".toList)
        ([' '] ++ ", h=2".toList) := by decide
  have hx : "BOX(w=1, at=[1, 2,3] , h=2)".toList =
      fieldLine "BOX" ("w=1,".toList ++ [' ']) "at" "[1, 2,3]"
        ([' '] ++ ", h=2".toList) := by decide
  have hv : v.StandsFor "ab" "[1, 2,3]" := by constructor <;> decide
  rw [hn, hx]
  exact read_text_in_place (by decide) (by decide) hv (.inr ⟨"w=1", rfl, by decide⟩)
    (.inr ⟨" h=2", rfl⟩) Chars.isBlank_of_mem_space Chars.isBlank_of_mem_space

end Line
end DraftScript
