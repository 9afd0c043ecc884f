/-
# Reports, one after another

Reports obey the laws of a monad: warnings and log only grow at their ends, and what is made
of a result leaves them alone.  So what each of a list of steps makes of its result can as
well be made of all results together (`each_map`), and what a sequence of steps gives is what
the steps give (`result_bind`, `result_each`).
-/

import DraftScript.Proofs.Resolution.Values
import DraftScript.Proofs.Steps

namespace DraftScript
namespace Report

variable {α β γ : Type}

theorem bind_pure (r : Report α) : r >>= pure = r := by
  cases h : r.result with
  | error e => rw [bind_eq_of_error h, ← h]
  | ok a =>
    rw [bind_eq_of_ok h]
    simp [pure, ← h]

theorem pure_bind (a : α) (f : α → Report β) : pure a >>= f = f a :=
  bind_eq_of_ok (r := pure a) rfl f

theorem bind_assoc (r : Report α) (f : α → Report β) (g : β → Report γ) :
    r >>= f >>= g = r >>= fun a => f a >>= g := by
  cases hr : r.result with
  | error e => simp only [bind_eq_of_error hr, bind_eq_of_error (r := ⟨.error e, _, _⟩) rfl]
  | ok a =>
    rw [bind_eq_of_ok hr, bind_eq_of_ok hr]
    cases hf : (f a).result with
    | error e => rw [bind_eq_of_error (e := e) rfl, bind_eq_of_error hf]
    | ok b =>
      rw [bind_eq_of_ok (a := b) rfl, bind_eq_of_ok hf, List.append_assoc, List.append_assoc]

instance : LawfulMonad Report :=
  .mk' Report bind_pure pure_bind bind_assoc

/-- The result of two steps is what the second makes of the result of the first. -/
theorem result_bind (r : Report α) (f : α → Report β) :
    (r >>= f).result = r.result >>= fun a => (f a).result := by
  cases h : r.result with
  | error e => rw [bind_eq_of_error h]; rfl
  | ok a => rw [bind_eq_of_ok h]; rfl

theorem result_map (g : α → β) (r : Report α) : (g <$> r).result = r.result.map g := by
  rw [← bind_pure_comp, result_bind]
  cases r.result <;> rfl

theorem warnings_map (g : α → β) (r : Report α) : (g <$> r).warnings = r.warnings := by
  rw [← bind_pure_comp, warnings_bind_pure]

/-- The results of all steps, or the first fault. -/
theorem result_each (f : α → Report β) (as : List α) :
    (each f as).result = as.mapM fun a => (f a).result := by
  induction as with
  | nil => rfl
  | cons a as ih =>
    rw [List.mapM_cons, ← ih, each, result_bind]
    simp only [result_bind]
    rfl

/-- **What is made of each result can be made of all of them together.** -/
theorem each_map (g : β → γ) (f : α → Report β) (as : List α) :
    each (fun a => g <$> f a) as = List.map g <$> each f as := by
  induction as with
  | nil => simp [each]
  | cons a as ih => simp [each, ih]

/-- Steps that are the same for every member of a list are the same for the list. -/
theorem each_congr {f g : α → Report β} {as : List α} (h : ∀ a ∈ as, f a = g a) :
    each f as = each g as := by
  induction as with
  | nil => rfl
  | cons a as ih =>
    rw [List.forall_mem_cons] at h
    rw [each, each, h.1, ih h.2]

end Report
end DraftScript
