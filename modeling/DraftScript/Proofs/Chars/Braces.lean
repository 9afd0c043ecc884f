/-
# Braces of a text

The braces of a text are balanced when no beginning of it closes more of them than it opens
and the whole closes as many as it opens (`Balanced`).  Reading from left to right and
counting the open ones decides that (`balanced_iff`), for texts read one after another
(`openAfter_append`) and whatever is open already (`openAfter_add`).

Only the braces count (`openAfter_braces`), so a text may be cut into lines, and other text
without braces be put between them.
-/

import DraftScript.Proofs.Chars.Split
import Mathlib.Data.List.Infix

namespace DraftScript
namespace Chars

variable {a b t : Chars} {n m : ℕ}

/-- Whether the braces of a text are balanced. -/
structure Balanced (t : Chars) : Prop where
  count_le : ∀ p, p <+: t → p.count '\x7d' ≤ p.count '\x7b'
  count_eq : t.count '\x7d' = t.count '\x7b'

/-- How many braces are open behind a text, if `n` are open before it; none if it closes one
that is not open. -/
def openAfter : ℕ → Chars → Option ℕ
  | n, [] => some n
  | n, c :: r =>
    if c = '\x7b' then openAfter (n + 1) r
    else if c = '\x7d' then
      match n with
      | 0 => none
      | n + 1 => openAfter n r
    else openAfter n r

@[simp] theorem openAfter_nil (n : ℕ) : openAfter n [] = some n := by rw [openAfter]

@[simp] theorem openAfter_opening (n : ℕ) (r : Chars) :
    openAfter n ('\x7b' :: r) = openAfter (n + 1) r := by
  rw [openAfter.eq_def]
  exact if_pos rfl

@[simp] theorem openAfter_closing_zero (r : Chars) : openAfter 0 ('\x7d' :: r) = none := by
  rw [openAfter, if_neg (by decide), if_pos rfl]

@[simp] theorem openAfter_closing_succ (n : ℕ) (r : Chars) :
    openAfter (n + 1) ('\x7d' :: r) = openAfter n r := by
  rw [openAfter, if_neg (by decide), if_pos rfl]

theorem openAfter_other {c : Char} (ho : c ≠ '\x7b') (hk : c ≠ '\x7d') (n : ℕ) (r : Chars) :
    openAfter n (c :: r) = openAfter n r := by
  rw [openAfter.eq_def]
  exact (if_neg ho).trans (if_neg hk)

/-- Texts are read one after the other. -/
theorem openAfter_append (n : ℕ) (a b : Chars) :
    openAfter n (a ++ b) = (openAfter n a).bind fun m => openAfter m b := by
  induction a generalizing n with
  | nil => rw [List.nil_append, openAfter_nil, Option.bind_some]
  | cons c a ih =>
    rw [List.cons_append]
    by_cases ho : c = '\x7b'
    · subst ho
      rw [openAfter_opening, openAfter_opening, ih]
    by_cases hk : c = '\x7d'
    · subst hk
      cases n with
      | zero => rw [openAfter_closing_zero, openAfter_closing_zero, Option.bind_none]
      | succ n => rw [openAfter_closing_succ, openAfter_closing_succ, ih]
    · rw [openAfter_other ho hk, openAfter_other ho hk, ih]

/-- Braces that are open around a text stay open. -/
theorem openAfter_add (h : openAfter n t = some m) (k : ℕ) :
    openAfter (n + k) t = some (m + k) := by
  induction t generalizing n with
  | nil =>
    obtain rfl : n = m := Option.some.inj h
    rfl
  | cons c t ih =>
    by_cases ho : c = '\x7b'
    · subst ho
      rw [openAfter_opening] at h ⊢
      rw [Nat.add_right_comm]
      exact ih h
    by_cases hk : c = '\x7d'
    · subst hk
      cases n with
      | zero => simp at h
      | succ n =>
        rw [openAfter_closing_succ] at h
        rw [Nat.add_right_comm, openAfter_closing_succ]
        exact ih h
    · rw [openAfter_other ho hk] at h ⊢
      exact ih h

theorem forall_prefix_cons {c : Char} {P : Chars → Prop} :
    (∀ p, p <+: c :: t → P p) ↔ P [] ∧ ∀ p, p <+: t → P (c :: p) := by
  simp only [List.prefix_cons_iff, or_imp, forall_and, forall_eq, forall_exists_index, and_imp]
  exact and_congr_right fun _ => ⟨fun h p hp => h _ p rfl hp, fun h p q hq hqt => hq ▸ h q hqt⟩

/-- The number of open braces is the difference of the two counts, as long as no brace is
closed that is not open. -/
theorem openAfter_eq_some_iff : openAfter n t = some m ↔
    (∀ p, p <+: t → p.count '\x7d' ≤ n + p.count '\x7b') ∧
      m + t.count '\x7d' = n + t.count '\x7b' := by
  induction t generalizing n with
  | nil => simp [eq_comm]
  | cons c t ih =>
    rw [forall_prefix_cons]
    by_cases ho : c = '\x7b'
    · subst ho
      have hk : ('\x7b' == '\x7d') = false := by decide
      simp only [openAfter_opening, ih, List.count_cons, List.count_nil, hk, beq_self_eq_true,
        if_true, Bool.false_eq_true, if_false]
      constructor
      · rintro ⟨hp, hm⟩
        exact ⟨⟨by omega, fun p hpt => by have := hp p hpt; omega⟩, by omega⟩
      · rintro ⟨⟨-, hp⟩, hm⟩
        exact ⟨fun p hpt => by have := hp p hpt; omega, by omega⟩
    by_cases hk : c = '\x7d'
    · subst hk
      have ho : ('\x7d' == '\x7b') = false := by decide
      simp only [List.count_cons, List.count_nil, ho, beq_self_eq_true, if_true,
        Bool.false_eq_true, if_false]
      cases n with
      | zero =>
        rw [openAfter_closing_zero]
        constructor
        · intro h
          cases h
        · rintro ⟨⟨-, hp⟩, -⟩
          have := hp [] (List.nil_prefix)
          simp at this
      | succ n =>
        rw [openAfter_closing_succ, ih]
        constructor
        · rintro ⟨hp, hm⟩
          exact ⟨⟨by omega, fun p hpt => by have := hp p hpt; omega⟩, by omega⟩
        · rintro ⟨⟨-, hp⟩, hm⟩
          exact ⟨fun p hpt => by have := hp p hpt; omega, by omega⟩
    · rw [openAfter_other ho hk, ih]
      simp [ho, hk]

/-- **A text is balanced when none of its braces is open behind it.** -/
theorem balanced_iff : Balanced t ↔ openAfter 0 t = some 0 := by
  rw [openAfter_eq_some_iff]
  constructor
  · rintro ⟨hp, ht⟩
    exact ⟨fun p hpt => by have := hp p hpt; omega, by omega⟩
  · rintro ⟨hp, ht⟩
    exact ⟨fun p hpt => by have := hp p hpt; omega, by omega⟩

/-! ## The braces alone -/

/-- Whether a character is a brace. -/
def isBrace (c : Char) : Bool := c == '\x7b' || c == '\x7d'

/-- The braces of a text. -/
def braces (t : Chars) : Chars := t.filter isBrace

/-- Whether a text has no braces. -/
def IsBraceless (t : Chars) : Prop := '\x7b' ∉ t ∧ '\x7d' ∉ t

instance : DecidablePred IsBraceless := fun _ => inferInstanceAs (Decidable (_ ∧ _))

@[simp] theorem braces_append (a b : Chars) : braces (a ++ b) = braces a ++ braces b :=
  List.filter_append ..

theorem IsBraceless.append (ha : IsBraceless a) (hb : IsBraceless b) : IsBraceless (a ++ b) := by
  constructor
  · simp [ha.1, hb.1]
  · simp [ha.2, hb.2]

theorem IsBraceless.braces_eq (h : IsBraceless t) : braces t = [] := by
  rw [braces, List.filter_eq_nil_iff]
  intro c hc hb
  rw [isBrace, Bool.or_eq_true, beq_iff_eq, beq_iff_eq] at hb
  rcases hb with rfl | rfl
  · exact h.1 hc
  · exact h.2 hc

/-- **Only the braces of a text count.** -/
theorem openAfter_braces (n : ℕ) (t : Chars) : openAfter n (braces t) = openAfter n t := by
  induction t generalizing n with
  | nil => rfl
  | cons c t ih =>
    rw [braces] at ih ⊢
    by_cases ho : c = '\x7b'
    · subst ho
      rw [List.filter_cons_of_pos rfl, openAfter_opening, openAfter_opening, ih]
    by_cases hk : c = '\x7d'
    · subst hk
      rw [List.filter_cons_of_pos rfl]
      cases n with
      | zero => rw [openAfter_closing_zero, openAfter_closing_zero]
      | succ n => rw [openAfter_closing_succ, openAfter_closing_succ, ih]
    · have hc : ¬isBrace c = true := by simp [isBrace, ho, hk]
      rw [List.filter_cons_of_neg hc, openAfter_other ho hk, ih]

/-- The line feeds between lines are no braces. -/
theorem braces_unlines (ls : List Chars) : braces (unlines ls) = ls.flatMap braces := by
  induction ls with
  | nil => rfl
  | cons l ls ih =>
    by_cases hl : ls = []
    · simp [hl, unlines, List.intercalate]
    · rw [unlines_cons l hl, braces_append, List.flatMap_cons, ← ih]
      rfl

/-- A text has the braces of its lines. -/
theorem flatMap_braces_lines (t : Chars) : (lines t).flatMap braces = braces t := by
  rw [lines]
  induction t with
  | nil => rfl
  | cons c t ih =>
    rw [splitOn]
    split
    · next hc =>
      subst hc
      rw [List.flatMap_cons, ih]
      rfl
    · cases hs : splitOn '\n' t with
      | nil => exact absurd hs (splitOn_ne_nil '\n' t)
      | cons p ps =>
        rw [hs, List.flatMap_cons] at ih
        rw [List.flatMap_cons, ← List.singleton_append, braces_append, List.append_assoc, ih,
          ← braces_append]
        rfl

end Chars
end DraftScript
