/-
# Values converted to another kind

Quoted texts are converted by the rules for bare literals: a text converts to a number or a truth
value exactly when it reads as that one (`coerce?_number_eq_some_iff`,
`coerce?_boolean_eq_some_iff`), blanks around it and the case of its letters notwithstanding.

What is converted there and back is what it was:

| from | by way of | back |
| --- | --- | --- |
| number | text | the number, a zero without its sign; nothing if it is not finite |
| boolean | text | the boolean |
| boolean | number | the boolean |
-/

import DraftScript.Proofs.Literal.ReadBack
import DraftScript.Proofs.Resolution.Whole

namespace DraftScript

/-- A character is its own small letter, or the capital of it. -/
theorem Chars.eq_toLower_or_eq (c : Char) : c = c.toLower ∨ c = c.toLower.toUpper := by
  by_cases h : c.toNat < 0x41 ∨ 0x5A < c.toNat
  · exact .inl (toLower_eq_self h).symm
  · have hall : ∀ n < 0x5B, Char.ofNat n = (Char.ofNat n).toLower ∨
        Char.ofNat n = (Char.ofNat n).toLower.toUpper := by
      decide
    have hc := hall c.toNat (by omega)
    rwa [Char.ofNat_toNat] at hc

namespace Literal

variable {t : Chars} {b : Bool}

/-- **A truth value is read as one:** no other rule takes the two words. -/
theorem gives_of_truthText (h : t.map Char.toLower = Value.truthText b) :
    Gives t (.ok (.boolean b)) := by
  -- Their first letters rule out the forms that come before.
  obtain ⟨c, r, rfl, hl⟩ : ∃ c r, t = c :: r ∧ (c.toLower = 'f' ∨ c.toLower = 't') := by
    cases b with
    | false =>
      obtain ⟨c, r, rfl, hl, -⟩ := List.map_eq_cons_iff.1 h
      exact ⟨c, r, rfl, .inl hl⟩
    | true =>
      obtain ⟨c, r, rfl, hl, -⟩ := List.map_eq_cons_iff.1 h
      exact ⟨c, r, rfl, .inr hl⟩
  obtain ⟨h₁, h₂, h₃, h₄⟩ : c ≠ '[' ∧ c ≠ '<' ∧ c.toUpper ≠ 'R' ∧ c ≠ '"' := by
    have hcase := Chars.eq_toLower_or_eq c
    rcases hl with hl | hl <;>
      · rw [hl] at hcase
        rcases hcase with rfl | rfl <;> decide
  exact .truth (not_hasShape_cons h₁ h₂ h₃) (fun inner e => h₄ (List.cons.inj e).1) h

/-- **The truth value that a trimmed text names** is the one that it is read as. -/
theorem truth?_trim_eq_some_iff : truth? (Chars.trim t) = some b ↔ read t = .ok (.boolean b) := by
  rw [truth?_eq_some_iff]
  constructor
  · intro h
    exact (gives_of_truthText h).read_eq
  · intro h
    cases gives_of_read h with
    | truth _ _ h => exact h

/-- The compact text of a number is a number exactly if it is finite. -/
theorem number?_compact (x : Binary64) :
    number? x.compact = if x.isFinite = true then some x.unsignZero else none := by
  cases x with
  | nan => decide +kernel
  | infinity s => cases s <;> decide +kernel
  | finite s m e h =>
    have hf : (Binary64.finite s m e h).isFinite = true := rfl
    rw [if_pos hf, number?, (isNumeralText_compact hf).trim_eq]
    exact Binary64.number?_compact hf

end Literal

namespace Value

variable {t : Chars} {b : Bool} {x : Binary64}

theorem coerce?_number_eq_some_iff :
    (text t).coerce? .number = some (number x) ↔ Literal.read t = .ok (number x) := by
  rw [← Literal.number?_eq_some_iff_read]
  simp [coerce?, kind]

theorem coerce?_boolean_eq_some_iff :
    (text t).coerce? .boolean = some (boolean b) ↔ Literal.read t = .ok (boolean b) := by
  rw [← Literal.truth?_trim_eq_some_iff]
  simp [coerce?, kind]

/-- A number as a text, and that text as a number. -/
theorem coerce?_text_number (x : Binary64) :
    ((number x).coerce? .text).bind (·.coerce? .number) =
      if x.isFinite = true then some (number x.unsignZero) else none := by
  have h : ((number x).coerce? .text).bind (·.coerce? .number) =
      (Literal.number? x.compact).map number := by
    simp [coerce?, kind]
  rw [h, Literal.number?_compact]
  split <;> rfl

/-- **Conversions keep what they can.**  A conversion gives nothing or a value of the kind that
is asked for, and a value of that kind is given as it is.  A text converts to a number or a
truth value exactly when it reads as that one.  A number comes back from its text unless it is
not finite, but for the sign of a zero, and a truth value from its text and from its number. -/
theorem coerce?_agrees (v : Value) (k : Kind) (t : Chars) (x : Binary64) (b : Bool) :
    (v.coerce? k = none ∨ ∃ w, v.coerce? k = some w ∧ w.kind = k) ∧
      v.coerce? v.kind = some v ∧
      ((text t).coerce? .number = some (number x) ↔ Literal.read t = .ok (number x)) ∧
      ((text t).coerce? .boolean = some (boolean b) ↔ Literal.read t = .ok (boolean b)) ∧
      ((number x).coerce? .text).bind (·.coerce? .number) =
        (if x.isFinite = true then some (number x.unsignZero) else none) ∧
      ((boolean b).coerce? .text).bind (·.coerce? .boolean) = some (boolean b) ∧
      ((boolean b).coerce? .number).bind (·.coerce? .boolean) = some (boolean b) := by
  refine ⟨?_, coerce?_of_kind rfl, coerce?_number_eq_some_iff, coerce?_boolean_eq_some_iff,
    coerce?_text_number x, ?_, ?_⟩
  · cases h : v.coerce? k with
    | none => exact .inl rfl
    | some w => exact .inr ⟨w, rfl, kind_of_coerce? h⟩
  · cases b <;> decide +kernel
  · cases b <;> decide +kernel

end Value
end DraftScript
