/-
# Steps that may fail, one after another

A sequence of steps ends with a result exactly when each step does, and otherwise with the
error of the first step that fails.
-/

import Mathlib.Data.List.Forall2

namespace DraftScript

variable {α β ε : Type}

/-- What two steps give is what the second makes of what the first gives. -/
theorem exists_of_bind_eq_ok {x : Except ε α} {f : α → Except ε β} {b : β}
    (h : (x >>= f) = .ok b) : ∃ a, x = .ok a ∧ f a = .ok b := by
  cases x with
  | error e => cases h
  | ok a => exact ⟨a, rfl, h⟩

theorem exists_of_map_eq_ok {x : Except ε α} {f : α → β} {b : β} (h : x.map f = .ok b) :
    ∃ a, x = .ok a ∧ f a = b := by
  cases x with
  | error e => cases h
  | ok a => exact ⟨a, rfl, Except.ok.inj h⟩

/-- Steps that are alike go on alike, if what follows does not see the difference. -/
theorem bind_eq_bind {γ : Type} {x y : Except ε α} {f g : α → Except ε β} {u : α → γ}
    (h : x.map u = y.map u) (hf : ∀ a b, u a = u b → f a = g b) : x >>= f = y >>= g := by
  cases x with
  | error e =>
    cases y with
    | error e' => rw [Except.error.inj h]; rfl
    | ok b => cases h
  | ok a =>
    cases y with
    | error e' => cases h
    | ok b => exact hf a b (Except.ok.inj h)

/-- A step either gives a result or fails. -/
theorem exists_eq_ok_iff {x : Except ε α} : (∃ a, x = .ok a) ↔ ∀ e, x ≠ .error e := by
  cases x <;> simp

variable {f : α → Except ε β} {l : List α}

/-- Steps that are the same for every member of a list are the same for the list. -/
theorem mapM_congr {g : α → Except ε β} (h : ∀ a ∈ l, f a = g a) : l.mapM f = l.mapM g := by
  induction l with
  | nil => rfl
  | cons a l ih =>
    rw [List.forall_mem_cons] at h
    rw [List.mapM_cons, List.mapM_cons, h.1, ih h.2]

/-- Steps of which each has its result or one and the same error. -/
theorem mapM_ite {P : α → Prop} [DecidablePred P] {g : α → β} {e : ε}
    (h : ∀ a ∈ l, f a = if P a then .ok (g a) else .error e) :
    l.mapM f = if ∀ a ∈ l, P a then .ok (l.map g) else .error e := by
  induction l with
  | nil => simp [pure, Except.pure]
  | cons a l ih =>
    rw [List.forall_mem_cons] at h
    rw [List.mapM_cons, h.1, ih h.2]
    simp only [List.forall_mem_cons]
    by_cases ha : P a
    · by_cases hl : ∀ a ∈ l, P a
      · rw [if_pos ha, if_pos hl, if_pos ⟨ha, hl⟩]
        rfl
      · rw [if_pos ha, if_neg hl, if_neg (mt And.right hl)]
        rfl
    · rw [if_neg ha, if_neg (mt And.left ha)]
      rfl

/-- All steps succeed, each with its result. -/
theorem mapM_eq_ok_iff {r : List β} :
    l.mapM f = .ok r ↔ List.Forall₂ (fun a b => f a = .ok b) l r := by
  induction l generalizing r with
  | nil => simp [pure, Except.pure, eq_comm]
  | cons a l ih =>
    rw [List.mapM_cons, List.forall₂_cons_left_iff]
    cases ha : f a with
    | error e => simp [bind, Except.bind]
    | ok b =>
      simp only [bind, Except.bind, Except.ok.injEq, ← ih]
      cases hl : l.mapM f with
      | error e => simp
      | ok bs => simp [pure, Except.pure, eq_comm]

/-- The first step that fails is the one that is told. -/
theorem mapM_eq_error_iff {e : ε} :
    l.mapM f = .error e ↔ ∃ l₁ a l₂ r, l = l₁ ++ a :: l₂ ∧
      List.Forall₂ (fun a b => f a = .ok b) l₁ r ∧ f a = .error e := by
  induction l with
  | nil => simp [pure, Except.pure]
  | cons a l ih =>
    rw [List.mapM_cons]
    constructor
    · intro h
      cases ha : f a with
      | error e' =>
        rw [ha] at h
        exact ⟨[], a, l, [], rfl, .nil, by rw [ha, Except.error.inj h]⟩
      | ok b =>
        cases hl : l.mapM f with
        | error e' =>
          rw [ha, hl] at h
          obtain ⟨l₁, a', l₂, r, rfl, hr, ha'⟩ := ih.1 (by rw [hl, Except.error.inj h])
          exact ⟨a :: l₁, a', l₂, b :: r, rfl, .cons ha hr, ha'⟩
        | ok bs =>
          rw [ha, hl] at h
          simp [bind, Except.bind, pure, Except.pure] at h
    · rintro ⟨l₁, a', l₂, r, hl, hr, ha'⟩
      cases hr with
      | nil =>
        obtain ⟨rfl, rfl⟩ := List.cons.inj hl
        rw [ha']
        rfl
      | cons hb hr =>
        obtain ⟨rfl, rfl⟩ := List.cons.inj hl
        rw [hb, ih.2 ⟨_, _, _, _, rfl, hr, ha'⟩]
        rfl

/-- Each of a list has a partner when the list has a list of partners. -/
theorem exists_forall₂_iff {R : α → β → Prop} :
    (∃ r, List.Forall₂ R l r) ↔ ∀ a ∈ l, ∃ b, R a b := by
  induction l with
  | nil => simp
  | cons a l ih =>
    simp only [List.forall₂_cons_left_iff, List.forall_mem_cons, ← ih]
    constructor
    · rintro ⟨_, b, r, ha, hl, -⟩
      exact ⟨⟨b, ha⟩, r, hl⟩
    · rintro ⟨⟨b, ha⟩, r, hl⟩
      exact ⟨_, b, r, ha, hl, rfl⟩

/-! ## Three steps -/

variable {γ : Type} {g : β → β → β → γ} {a b c : α}

/-- Three steps give a result when each does. -/
theorem three_eq_ok_iff {v : γ} :
    (do let x ← f a; let y ← f b; let z ← f c; return g x y z) = Except.ok v ↔
      ∃ x y z, f a = .ok x ∧ f b = .ok y ∧ f c = .ok z ∧ g x y z = v := by
  constructor
  · intro h
    obtain ⟨x, hx, h⟩ := exists_of_bind_eq_ok h
    obtain ⟨y, hy, h⟩ := exists_of_bind_eq_ok h
    obtain ⟨z, hz, h⟩ := exists_of_bind_eq_ok h
    exact ⟨x, y, z, hx, hy, hz, Except.ok.inj h⟩
  · rintro ⟨x, y, z, hx, hy, hz, rfl⟩
    rw [hx, hy, hz]
    rfl

/-- Three steps fail for the first of them that does. -/
theorem three_eq_error_iff {e : ε} :
    (do let x ← f a; let y ← f b; let z ← f c; return g x y z) = Except.error e ↔
      ∃ l₁ p l₂, [a, b, c] = l₁ ++ p :: l₂ ∧ (∀ q ∈ l₁, ∃ x, f q = .ok x) ∧ f p = .error e := by
  constructor
  · intro h
    cases ha : f a with
    | error e' =>
      rw [ha] at h
      exact ⟨[], a, [b, c], rfl, by simp, by rw [ha, Except.error.inj h]⟩
    | ok x =>
      cases hb : f b with
      | error e' =>
        rw [ha, hb] at h
        exact ⟨[a], b, [c], rfl, by simp [ha], by rw [hb, Except.error.inj h]⟩
      | ok y =>
        cases hc : f c with
        | error e' =>
          rw [ha, hb, hc] at h
          exact ⟨[a, b], c, [], rfl, by simp [ha, hb], by rw [hc, Except.error.inj h]⟩
        | ok z =>
          rw [ha, hb, hc] at h
          exact nomatch h
  · rintro ⟨l₁, p, l₂, hl, hq, hp⟩
    -- No more than two steps come before the one that fails.
    rcases l₁ with _ | ⟨q₁, _ | ⟨q₂, _ | ⟨q₃, l₁⟩⟩⟩
    · cases hl
      rw [hp]
      rfl
    · cases hl
      obtain ⟨x, hx⟩ := hq a (by simp)
      rw [hx, hp]
      rfl
    · cases hl
      obtain ⟨x, hx⟩ := hq a (by simp)
      obtain ⟨y, hy⟩ := hq b (by simp)
      rw [hx, hy, hp]
      rfl
    · simp at hl

end DraftScript
