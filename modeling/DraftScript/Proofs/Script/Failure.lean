/-
# How a script fails

A script fails at the first line that is refused.  The error is the one of that line, put
at its number, and what is left is what the lines before it left; this is so for every
reader, whatever it has read before (`ScriptReader.error?_read_eq_some_iff`).

Not every refusal is an error of the script, though.  A channel of a color that has more
digits than are read is refused without one (`Script.refusal_cases`), so that a script can
fail without saying where (`Script.overlong_channel_unlocated`).
-/

import DraftScript.Proofs.Line.Source
import DraftScript.Proofs.Literal.Refusal
import DraftScript.Proofs.Script.Run
import Mathlib.Order.Bounds.Defs

namespace DraftScript

/-! ## Errors at a line -/

theorem Diagnostic.properName_eq (n : Option Chars) :
    properName n = if n = some [] then none else n := by
  cases n with
  | none => rfl
  | some t => by_cases h : t = [] <;> simp [properName, h]

namespace ScriptError

variable {e e₀ : ScriptError} {n : ℕ} {source : Chars} {filename : Option Chars}

/-- Whether an error is another one put at a line of a script: it says the same, and tells
the number and the text of the line and the name of the file, of which an empty one is
none. -/
structure IsAt (e e₀ : ScriptError) (n : ℕ) (source : Chars) (filename : Option Chars) :
    Prop where
  errorClass : e.errorClass = e₀.errorClass
  code : e.diagnostic.code = e₀.diagnostic.code
  message : e.diagnostic.message = e₀.diagnostic.message
  severity : e.diagnostic.severity = e₀.diagnostic.severity
  hints : e.diagnostic.hints = e₀.diagnostic.hints
  line : e.diagnostic.line = some (n : ℤ)
  sourceLine : e.diagnostic.sourceLine = some source
  filename : e.diagnostic.filename = if filename = some [] then none else filename

/-- Locating an error without a file puts it at a line, and nothing else does. -/
theorem isAt_iff (h : e₀.diagnostic.filename = none) :
    e.IsAt e₀ n source filename ↔ e = e₀.located (some n) (some source) filename := by
  have hf : (Diagnostic.properName filename <|> e₀.diagnostic.filename) =
      if filename = some [] then none else filename := by
    simp [h, Diagnostic.properName_eq]
  constructor
  · rintro ⟨h₁, h₂, h₃, h₄, h₅, h₆, h₇, h₈⟩
    obtain ⟨c, d⟩ := e
    obtain ⟨code, message, severity, line, file, sourceLine, hints⟩ := d
    dsimp only at h₁ h₂ h₃ h₄ h₅ h₆ h₇ h₈
    subst h₁ h₂ h₃ h₄ h₅ h₆ h₇ h₈
    rw [located, Diagnostic.located, hf]
  · rintro rfl
    exact ⟨rfl, rfl, rfl, rfl, rfl, rfl, rfl, hf⟩

end ScriptError

/-- The error of a refusal knows no file. -/
theorem Refusal.filename_of_error? {r : Refusal} {line : Option ℤ} {e : ScriptError}
    (h : r.error? line = some e) : e.diagnostic.filename = none := by
  obtain ⟨c, -, rfl⟩ := Option.map_eq_some_iff.1 h
  rfl

namespace Script

variable {filename : Option Chars} {v w : Variables} {n : ℕ} {source l : Chars}
  {cs : List Command} {cause : Refusal}

/-- A script that is read to its end has no error. -/
theorem error?_read_of_reads (h : Reads v 0 (Chars.lines source) cs w) :
    (read filename v source).error? = none := by
  rw [ScriptOutcome.error?, failure_read, (readLines_of_reads filename h).1]
  rfl

/-- The error of a script that stops is that of the line, if it has one. -/
theorem error?_read_of_stopsAt (h : StopsAt v (Chars.lines source) n cs w l cause) :
    (read filename v source).error? =
      (cause.error? (some n)).map fun e =>
        e.located (some n) (some (Chars.dropEndWhile (· = '\r') l)) filename := by
  rw [ScriptOutcome.error?, (read_of_stopsAt filename h).1]
  rfl

end Script

open Script in
/-- **A script has an error when the first line that is refused has one.** It is that of
the line `l`, put at its number `n`, and can be shown; the reader is left with the bindings
`w` and the commands `cs` of the lines before. -/
theorem ScriptReader.error?_read_eq_some_iff (r : ScriptReader) (source : Chars)
    (e : ScriptError) :
    (r.read source).1.error? = some e ↔
      ∃ n cs w l cause e₀, StopsAt r.scope (Chars.lines source) n cs w l cause ∧
        IsLeast {m | ∃ cs w l cause, StopsAt r.scope (Chars.lines source) m cs w l cause} n ∧
        cause.error? (some n) = some e₀ ∧
        e.IsAt e₀ n (Chars.dropEndWhile (· = '\r') l) r.filename ∧
        (∀ showSource, (e.diagnostic.format? showSource).isSome) ∧
        (r.read source).2.scope.bindings = w.bindings ∧ (r.read source).2.commands = cs ∧
        (r.read source).2.line = n := by
  constructor
  · intro h
    rcases reads_or_stopsAt r.scope (Chars.lines source) with
      ⟨cs, w, hs⟩ | ⟨n, cs, w, l, cause, hs⟩
    · exact absurd ((error?_read_of_reads hs).symm.trans h) (by simp)
    · obtain ⟨e₀, he, rfl⟩ := Option.map_eq_some_iff.1 ((error?_read_of_stopsAt hs).symm.trans h)
      obtain ⟨-, hc, hn, hw⟩ := read_of_stopsAt r.filename hs
      refine ⟨n, cs, w, l, cause, e₀, hs, ⟨⟨cs, w, l, cause, hs⟩, ?_⟩, he,
        (ScriptError.isAt_iff (Refusal.filename_of_error? he)).2 rfl,
        fun _ => Diagnostic.format?_located_isSome .., hw, hc, hn⟩
      rintro m ⟨cs', w', l', cause', hs'⟩
      exact (hs.unique hs').le
  · rintro ⟨n, cs, w, l, cause, e₀, hs, -, he, hat, -⟩
    rw [ScriptError.isAt_iff (Refusal.filename_of_error? he)] at hat
    rw [hat]
    exact (error?_read_of_stopsAt hs).trans (by rw [he]; rfl)

/-! ## Refusals without an error -/

namespace Line

variable {v : Variables} {l : Chars} {line : ℤ} {e : Refusal}

/-- Whether a line is an invocation with a color, once its value is substituted, of which a
channel has `k` digits. -/
def HasChannel (v : Variables) (l : Chars) (k : ℕ) : Prop :=
  ∃ name arguments f p raw inner part m, LineForm.IsInvocation (Chars.trim l) name arguments ∧
    f ∈ Field.split arguments ∧ Field.IsAssignment f p raw ∧
    Literal.shape? (Chars.trim (v.substitute raw)) = some (.color, inner) ∧
    part ∈ Literal.components inner ∧ WholeNumeral.read? part = some m ∧ m.digits.length = k

/-- A line is refused with an error of the script, or for an overlong channel. -/
theorem errorClass?_of_read (h : (read v l line).result = .error e) :
    e.errorClass?.isSome ∨ ∃ k, e = .digits k ∧ digitLimit < k ∧ HasChannel v l k := by
  obtain ⟨b, -, hg⟩ := exists_gives_of_read h
  cases hg with
  | misdeclared | unknown => exact .inl rfl
  | @refused name arguments f fs gs rs _ _ hi hsp _ he =>
    rcases he with ⟨-, rfl⟩ | ⟨p, raw, ha, hr⟩
    · exact .inl rfl
    · rcases (Literal.refusedFor_of_read hr).errorClass?_eq with
        hc | ⟨-, inner, part, m, hs, hp, hm, hk, rfl⟩
      · exact .inl (by rw [hc]; rfl)
      · exact .inr ⟨_, rfl, hk, name, arguments, f, p, raw, inner, part, m, hi, by simp [hsp],
          ha, hs, hp, hm, rfl⟩

end Line

namespace Script

/-- **A script is read to its end, or stops at one of its lines.** It then has an error that
is located there, unless a channel of a color in the line is overlong: for that there is no
error. -/
theorem refusal_cases (filename : Option Chars) (v : Variables) (source : Chars) :
    (read filename v source).failure = none ∨
      ∃ n cs w l cause, StopsAt v (Chars.lines source) n cs w l cause ∧
        1 ≤ n ∧ n ≤ (Chars.lines source).length ∧
        ((∃ e, (read filename v source).error? = some e ∧ e.diagnostic.line = some (n : ℤ)) ∨
          ∃ k, digitLimit < k ∧ Line.HasChannel w l k ∧
            (read filename v source).failure.map (·.cause) = some (.digits k) ∧
            (read filename v source).error? = none) := by
  rcases reads_or_stopsAt v (Chars.lines source) with
    ⟨cs, w, hs⟩ | ⟨n, cs, w, l, cause, hs⟩
  · exact .inl ((failure_read ..).trans (readLines_of_reads filename hs).1)
  · have hn : 1 ≤ n ∧ n ≤ (Chars.lines source).length := by
      obtain ⟨⟨before, after, hl, rfl, -⟩, -⟩ := hs
      simp [hl]
    have hf := (read_of_stopsAt filename hs).1
    have he : (read filename v source).error? = _ := error?_read_of_stopsAt hs
    refine .inr ⟨n, cs, w, l, cause, hs, hn.1, hn.2, ?_⟩
    rcases Line.errorClass?_of_read hs.refused with hc | ⟨k, rfl, hk, hch⟩
    · obtain ⟨c, hc⟩ := Option.isSome_iff_exists.1 hc
      rw [Refusal.error?, hc, Option.map_some, Option.map_some] at he
      exact .inl ⟨_, he, rfl⟩
    · exact .inr ⟨k, hk, hch, by rw [hf]; rfl, he⟩

/-! ### A script of one line, whose color is overlong -/

/-- A field with a color. -/
def colorField (r g b : ℤ) : Chars := "c=" ++ (Value.color r g b).literal

/-- A command with a color and nothing else. -/
def colored (r g b : ℤ) : Chars := "A(" ++ colorField r g b ++ ")"

theorem not_mem_colorLiteral {d : Char} (hd : isNumeralChar d = false)
    (hs : d ∉ ", RGB()".toList) (r g b : ℤ) : d ∉ (Value.color r g b).literal := by
  simp only [String.reduceToList, List.mem_cons, List.not_mem_nil, or_false, not_or] at hs
  have ht := not_mem_triple hd (by simp [hs]) (isNumeralText_ofInt r) (isNumeralText_ofInt g)
    (isNumeralText_ofInt b)
  simp [Value.literal_color, ht, hs]

theorem isAssignment_colorField (r g b : ℤ) :
    Field.IsAssignment (colorField r g b) "c" (Value.color r g b).literal :=
  ⟨"c", (Value.color r g b).literal, rfl, by decide,
    not_mem_colorLiteral rfl (by decide) r g b, by decide, Literal.trim_literal_color r g b,
    by decide⟩

/-- No comma of a color separates fields. -/
theorem split_colorField (r g b : ℤ) : Field.split (colorField r g b) = [colorField r g b] := by
  have hc : Field.Closed (colorField r g b) := by
    rw [colorField, Value.literal_color]
    exact .of_run_eq (a := "c=RGB") (by decide) (by decide) (.of_brackets (.inr rfl) (.inr rfl)
      (isFlat_triple (isNumeralText_ofInt r) (isNumeralText_ofInt g) (isNumeralText_ofInt b)))
  have ht : Chars.trim (colorField r g b) = colorField r g b :=
    Chars.trim_append_cons (a := ['c']) (by decide) (by decide)
      (Literal.trim_literal_color r g b) (by decide)
  simpa using Field.split_intercalate (List.forall_mem_singleton.2 hc)
    (List.forall_mem_singleton.2 ht) (by simp [colorField])

theorem lines_colored (r g b : ℤ) : Chars.lines (colored r g b) = [colored r g b] := by
  refine Chars.splitOn_of_not_mem ?_
  simp [colored, colorField, not_mem_colorLiteral (d := '\n') rfl (by decide) r g b]

theorem trim_colored (r g b : ℤ) : Chars.trim (colored r g b) = colored r g b :=
  Chars.trim_cons_concat (t := '(' :: colorField r g b) (by decide) (by decide)

/-- **A script stops for a channel that is too long to be written.** -/
theorem stopsAt_colored (v : Variables) {r : ℤ} (h : isWritable r = false) (g b : ℤ) :
    StopsAt v (Chars.lines (colored r g b)) 1 [] v (colored r g b)
      (.digits (Chars.values (Chars.ofNat r.natAbs)).length) := by
  have hn : isName "A" = true := by decide
  have hd : ∀ body, ¬LineForm.IsDeclaration (Chars.trim (colored r g b)) body := by
    rw [trim_colored]
    exact LineForm.not_isDeclaration_of_isName hn
  have hi : LineForm.IsInvocation (Chars.trim (colored r g b)) "A" (colorField r g b) := by
    rw [trim_colored]
    exact ⟨hn, [], by simp, by simp [colored]⟩
  have hr : Line.FieldRefused v (colorField r g b)
      (.digits (Chars.values (Chars.ofNat r.natAbs)).length) := by
    refine .inr ⟨"c", _, isAssignment_colorField r g b, ?_⟩
    rw [Variables.substitute_text (not_mem_colorLiteral (d := '$') rfl (by decide) r g b)]
    exact Literal.read_color_of_not_isWritable h g b
  refine ⟨⟨[], [], by rw [lines_colored]; rfl, rfl, .nil v 0⟩, ?_⟩
  have hs : Field.split (colorField r g b) = [] ++ colorField r g b :: [] := split_colorField r g b
  exact (Line.Gives.refused hd hi hs .nil hr).read_eq.1

/-- **A color with a channel one digit too long has no error,** and so no line. -/
theorem overlong_channel_unlocated :
    (read none {} (colored (10 ^ digitLimit) 0 0)).failure.isSome = true ∧
      (read none {} (colored (10 ^ digitLimit) 0 0)).error? = none := by
  have hs := stopsAt_colored {} (r := 10 ^ digitLimit) (by simp [isWritable]) 0 0
  exact ⟨by rw [(read_of_stopsAt none hs).1]; rfl, error?_read_of_stopsAt hs⟩

end Script

end DraftScript
