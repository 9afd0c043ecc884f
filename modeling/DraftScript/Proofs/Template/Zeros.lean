/-
# Templates and the signs of zeros

Compact texts have no signs of zeros.  A derivation may see them, but the formulas do not: an
angle made of a zero is a zero again, and a difference is a zero or does not see the sign.  So
unless a derivation sees more, the text of a template is that for the values without the signs of
their zeros (`BlockTemplate.fill_unsignZeros`).
-/

import DraftScript.Proofs.Literal.ReadBack
import DraftScript.Proofs.Template.Fields

namespace DraftScript

/-! ## Numbers -/

namespace Binary64

variable {x y : Binary64}

/-- A number is a zero, or has no sign to lose. -/
theorem eq_zero_or_unsignZero_eq (x : Binary64) : (∃ s, x = zero s) ∨ x.unsignZero = x := by
  cases x with
  | nan | infinity => exact .inr rfl
  | finite s m e h =>
    by_cases hm : m = 0
    · subst hm
      obtain rfl : e = -1074 := h.2.2.2.resolve_left (by decide)
      exact .inl ⟨s, rfl⟩
    · exact .inr (unsignZero_of_ne_zero hm)

theorem unsignZero_zero (s : Bool) : (zero s).unsignZero = zero false := rfl

/-- What does not see the sign of a zero does not see whether it has been lost. -/
theorem apply_unsignZero {α : Type} {f : Binary64 → α} (h : ∀ s, f (zero s) = f (zero false))
    (x : Binary64) : f x.unsignZero = f x := by
  rcases eq_zero_or_unsignZero_eq x with ⟨s, rfl⟩ | hx
  · rw [unsignZero_zero, h s]
  · rw [hx]

theorem unsignZero_unsignZero (x : Binary64) : x.unsignZero.unsignZero = x.unsignZero :=
  apply_unsignZero (f := unsignZero) unsignZero_zero x

theorem compact_unsignZero (x : Binary64) : x.unsignZero.compact = x.compact :=
  apply_unsignZero (f := compact) (fun s => by rw [zero, compact_zero, zero, compact_zero]) x

theorem radians_unsignZero (x : Binary64) :
    x.unsignZero.radians.unsignZero = x.radians.unsignZero :=
  apply_unsignZero (f := fun x => x.radians.unsignZero)
    (fun s => by cases s <;> decide +kernel) x

/-- A zero is what all signs of it denote. -/
theorem toRat?_zero (s : Bool) : (zero s).toRat? = some 0 := by
  cases s <;> simp [zero, toRat?, magnitude]

/-- The difference of two finite numbers is that of what they denote, or a zero. -/
theorem unsignZero_sub {p q : ℚ} (hx : x.toRat? = some p) (hy : y.toRat? = some q) :
    (x.sub y).unsignZero = if p = q then zero false else (ofRat (p - q)).unsignZero := by
  cases x with
  | nan | infinity => cases hx
  | finite s m e h =>
    cases y with
    | nan | infinity => cases hy
    | finite t n f k =>
      rw [← Option.some.inj hx, ← Option.some.inj hy, sub]
      exact apply_ite unsignZero _ _ _

theorem sub_unsignZero (x y : Binary64) :
    (x.unsignZero.sub y.unsignZero).unsignZero = (x.sub y).unsignZero := by
  have hl (y : Binary64) (s : Bool) :
      ((zero s).sub y).unsignZero = ((zero false).sub y).unsignZero := by
    cases y with
    | nan | infinity => rfl
    | finite => rw [unsignZero_sub (toRat?_zero s) rfl, unsignZero_sub (toRat?_zero false) rfl]
  have hr (x : Binary64) (s : Bool) :
      (x.sub (zero s)).unsignZero = (x.sub (zero false)).unsignZero := by
    cases x with
    | nan | infinity => rfl
    | finite => rw [unsignZero_sub rfl (toRat?_zero s), unsignZero_sub rfl (toRat?_zero false)]
  calc (x.unsignZero.sub y.unsignZero).unsignZero
      = (x.sub y.unsignZero).unsignZero :=
        apply_unsignZero (f := fun x => (x.sub y.unsignZero).unsignZero) (hl _) x
    _ = (x.sub y).unsignZero := apply_unsignZero (f := fun y => (x.sub y).unsignZero) (hr x) y

end Binary64

/-! ## Values -/

namespace Value

theorem unsignZeros_unsignZeros (v : Value) : v.unsignZeros.unsignZeros = v.unsignZeros := by
  cases v <;> simp [unsignZeros, Binary64.unsignZero_unsignZero]

/-- **The view of a value has no signs of zeros.** -/
theorem view_unsignZeros (v : Value) : v.unsignZeros.view = v.view := by
  cases v <;>
    simp [unsignZeros, view, written, isWritable, display, Binary64.compact_unsignZero]

end Value

/-- Named values without the signs of their zeros. -/
abbrev Assoc.unsignZeros (ps : Assoc Chars Value) : Assoc Chars Value :=
  ps.mapValues Value.unsignZeros

theorem Assoc.unsignZeros_unsignZeros (ps : Assoc Chars Value) :
    ps.unsignZeros.unsignZeros = ps.unsignZeros := by
  simp [unsignZeros, mapValues, Function.comp_def, Value.unsignZeros_unsignZeros]

/-! ## Derived values -/

/-- Whether what is derived differs in the signs of zeros at most, if the parameters do. -/
def Derivation.IgnoresSigns (d : Derivation) : Prop :=
  ∀ ps : Assoc Chars Value,
    (d ps.unsignZeros).map Value.unsignZeros = (d ps).map Value.unsignZeros

namespace Formula

theorem parameter_unsignZeros (ps : Assoc Chars Value) (n : Chars) :
    parameter ps.unsignZeros n = (parameter ps n).map Value.unsignZeros := by
  rw [parameter, parameter, Assoc.get?_mapValues]
  cases ps.get? n <;> rfl

theorem angle_unsignZeros (v : Value) :
    angle v.unsignZeros = (angle v).map Binary64.unsignZero := by
  cases v with
  | boolean b => cases b <;> decide +kernel
  | number | text | point | vector | color => rfl

theorem coordinates_unsignZeros (v : Value) : coordinates v.unsignZeros =
    (coordinates v).map fun p => (p.1.unsignZero, p.2.1.unsignZero, p.2.2.unsignZero) := by
  cases v <;> rfl

/-- **No formula sees the signs of zeros.** -/
theorem ignoresSigns (f : Formula) : f.derivation.IgnoresSigns := by
  intro ps
  rw [derivation, derivation]
  cases f with
  | radians n =>
    rw [eval, eval, parameter_unsignZeros]
    cases parameter ps n with
    | error e => rfl
    | ok v =>
      simp only [Except.map, bind, Except.bind, angle_unsignZeros]
      cases angle v with
      | error e => rfl
      | ok x => simp [pure, Except.pure, Value.unsignZeros, Binary64.radians_unsignZero]
  | displacement start stop =>
    rw [eval, eval, parameter_unsignZeros, parameter_unsignZeros]
    cases parameter ps start with
    | error e => rfl
    | ok v =>
      cases parameter ps stop with
      | error e => rfl
      | ok w =>
        simp only [Except.map, bind, Except.bind, coordinates_unsignZeros]
        cases coordinates w with
        | error e => rfl
        | ok p =>
          cases coordinates v with
          | error e => rfl
          | ok q => simp [pure, Except.pure, Value.unsignZeros, Binary64.sub_unsignZero]

end Formula

/-! ## Filling a template -/

namespace BlockTemplate

/-- The view of a derived field does not see the signs of zeros. -/
theorem derive_unsignZeros {d : Derivation} (h : d.IgnoresSigns) (ps : Assoc Chars Value) :
    derive ps.unsignZeros d = derive ps d := by
  rw [derive, derive]
  refine bind_eq_bind (h ps) fun v w hvw => ?_
  rw [← Value.view_unsignZeros v, hvw, Value.view_unsignZeros]

/-- **A template does not see the signs of zeros,** unless a derivation does. -/
theorem fill_unsignZeros {t : BlockTemplate} (h : ∀ d ∈ t.derived, d.2.IgnoresSigns)
    (ps : Assoc Chars Value) : t.fill ps.unsignZeros = t.fill ps := by
  have hviews : (ps.unsignZeros.mapM fun p => p.2.view.map (p.1, ·)) =
      ps.mapM fun p => p.2.view.map (p.1, ·) := by
    rw [Assoc.unsignZeros, Assoc.mapValues, List.mapM_map]
    simp only [Function.comp_def, Value.view_unsignZeros]
  have hderived : (t.derived.mapM fun d => (derive ps.unsignZeros d.2).map (d.1, ·)) =
      t.derived.mapM fun d => (derive ps d.2).map (d.1, ·) :=
    mapM_congr fun d hd => by rw [derive_unsignZeros (h d hd)]
  rw [fill, fill, fields, fields, hviews, hderived]

end BlockTemplate
end DraftScript
