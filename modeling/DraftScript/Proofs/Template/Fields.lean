/-
# The fields of a template

The fields of a template are the views of the parameters, and in place of them or behind them
those of the derived values.  A view shows numbers by their digits, and a color whose channels
have too many of them has none:

| parameters | derived values | fields |
| --- | --- | --- |
| all can be written | all can be written | a view of each |
| all can be written | one is too long | the fault |
| one is too long | | the fault |

So a template for whose parameters all derived fields can be derived fails for this cause, or is
shown with the views (`fill_of_derived`).
-/

import DraftScript.Proofs.Steps
import DraftScript.Template.Derived
import Mathlib.Algebra.Ring.Int.Defs

namespace DraftScript

/-! ## Maps from keys to values -/

namespace Assoc

variable {κ ν μ : Type} [DecidableEq κ]

/-- The map with something made of each value. -/
def mapValues (f : ν → μ) (a : Assoc κ ν) : Assoc κ μ := a.map fun p => (p.1, f p.2)

theorem get?_mapValues (f : ν → μ) (a : Assoc κ ν) (x : κ) :
    (a.mapValues f).get? x = (a.get? x).map f := by
  induction a with
  | nil => rfl
  | cons p a ih =>
    rw [mapValues, List.map_cons, get?, get?]
    split
    · rfl
    · exact ih

theorem mapValues_put (f : ν → μ) (a : Assoc κ ν) (x : κ) (w : ν) :
    (a.put x w).mapValues f = (a.mapValues f).put x (f w) := by
  induction a with
  | nil => rfl
  | cons p a ih =>
    simp only [mapValues, put, List.map_cons] at ih ⊢
    split
    · rfl
    · rw [List.map_cons, ih]

theorem mapValues_foldl_put (f : ν → μ) (ps a : Assoc κ ν) :
    (ps.foldl (fun a p => a.put p.1 p.2) a).mapValues f =
      (ps.mapValues f).foldl (fun a p => a.put p.1 p.2) (a.mapValues f) := by
  induction ps generalizing a with
  | nil => rfl
  | cons p ps ih => exact (ih _).trans (by rw [mapValues_put]; rfl)

theorem mapValues_ofPairs (f : ν → μ) (ps : List (κ × ν)) :
    (ofPairs ps).mapValues f = ofPairs (mapValues f ps) := mapValues_foldl_put f ps []

end Assoc

/-! ## Values that can be written -/

namespace Value

variable {v : Value}

/-- Only a color can be too long to be written. -/
theorem isWritable_of_kind_ne (h : v.kind ≠ .color) : v.isWritable = true := by
  cases v with
  | number | text | boolean | point | vector => rfl
  | color => exact absurd rfl h

/-- A color that is too long to be written. -/
def overlong : Value := .color (10 ^ digitLimit) 0 0

theorem isWritable_overlong : overlong.isWritable = false := by
  simp [overlong, isWritable, DraftScript.isWritable, Int.natAbs_pow]

/-- Whether all of some named values can be written. -/
def AllWritable (ps : Assoc Chars Value) : Prop := ∀ q ∈ ps, q.2.isWritable = true

instance (ps : Assoc Chars Value) : Decidable (AllWritable ps) :=
  inferInstanceAs (Decidable (∀ _ ∈ _, _))

theorem allWritable_cons {q : Chars × Value} {ps : Assoc Chars Value} :
    AllWritable (q :: ps) ↔ q.2.isWritable = true ∧ AllWritable ps := List.forall_mem_cons

end Value

open Value (AllWritable)

/-- The views of values, by name. -/
abbrev viewsOf (ps : Assoc Chars Value) : Assoc Chars View := ps.mapValues Value.display

/-- **Values that can all be written are viewed.** -/
theorem mapM_view (ps : Assoc Chars Value) : (ps.mapM fun p => p.2.view.map (p.1, ·)) =
    if AllWritable ps then .ok (viewsOf ps) else .error .unwritable := by
  refine mapM_ite fun p _ => ?_
  rw [Value.view, Value.written]
  cases p.2.isWritable <;> rfl

/-! ## Derived values -/

/-- Whether values are what derivations make of the parameters, each under the name of its
derivation. -/
def Derived (ps : Assoc Chars Value) (ds : Assoc Chars Derivation) (vs : Assoc Chars Value) :
    Prop :=
  List.Forall₂ (fun d p => p.1 = d.1 ∧ d.2 ps = .ok p.2) ds vs

section Derived

variable {ps vs : Assoc Chars Value} {ds : Assoc Chars Derivation}

theorem Derived.keys_eq (h : Derived ps ds vs) : ds.keys = vs.keys := by
  have hk : List.Forall₂ (· = ·) (ds.map Prod.fst) (vs.map Prod.fst) := by
    rw [List.forall₂_map_left_iff, List.forall₂_map_right_iff]
    exact h.imp fun _ _ h => h.1.symm
  rwa [List.forall₂_eq_eq_eq] at hk

/-- Derived values are viewed as given ones are. -/
theorem Derived.mapM_derive (h : Derived ps ds vs) :
    (ds.mapM fun d => (BlockTemplate.derive ps d.2).map (d.1, ·)) =
      if AllWritable vs then .ok (viewsOf vs) else .error .unwritable := by
  rw [← mapM_view]
  induction h with
  | nil => rfl
  | @cons d p ds vs hd _ ih =>
    have hview : BlockTemplate.derive ps d.2 = p.2.view := by
      rw [BlockTemplate.derive, hd.2]
      rfl
    rw [List.mapM_cons, List.mapM_cons, ih, hview, hd.1]

end Derived

namespace BlockTemplate

variable {t : BlockTemplate} {ps vs : Assoc Chars Value}

/-- The views of parameters and of derived values, which go before parameters of their names. -/
def shown (ps vs : Assoc Chars Value) : Assoc Chars View :=
  viewsOf (vs.foldl (fun a p => a.put p.1 p.2) ps)

/-- **The fields are the views of the parameters and derived values,** if all of them can be
written. -/
theorem fields_of_derived (h : Derived ps t.derived vs) : t.fields ps =
    if AllWritable ps ∧ AllWritable vs then .ok (shown ps vs) else .error .unwritable := by
  rw [fields, mapM_view, h.mapM_derive]
  by_cases hp : AllWritable ps
  · by_cases hv : AllWritable vs
    · rw [if_pos hp, if_pos hv, if_pos ⟨hp, hv⟩]
      exact congrArg Except.ok (Assoc.mapValues_foldl_put Value.display vs ps).symm
    · rw [if_pos hp, if_neg hv, if_neg (mt And.right hv)]
      rfl
  · rw [if_neg hp, if_neg (mt And.left hp)]
    rfl

/-- A template with parameters that cannot be written is not filled, whether or not it shows
them. -/
theorem fill_of_not_allWritable (t : BlockTemplate) (h : ¬AllWritable ps) :
    t.fill ps = .error .unwritable := by
  rw [fill, fields, mapM_view, if_neg h]
  rfl

/-- **A template is filled with the views,** if there are all of them. -/
theorem fill_of_derived (h : Derived ps t.derived vs) : t.fill ps =
    if AllWritable ps ∧ AllWritable vs then Template.fill t.address (shown ps vs) t.body
    else .error .unwritable := by
  rw [fill, fields_of_derived h]
  split <;> rfl

/-- What is not derived is seen as it is. -/
theorem get?_shown {x : Chars} (h : x ∉ vs.keys) :
    (shown ps vs).get? x = (ps.get? x).map Value.display := by
  rw [← Assoc.get?_foldl_put_of_not_mem (a := ps) h, ← Assoc.get?_mapValues]
  rfl

end BlockTemplate
end DraftScript
