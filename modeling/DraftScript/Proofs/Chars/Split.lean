/-
# Texts cut at a separator

`splitOn` cuts at every separator and `cutAt` at the first.  Both are settled by where
the separators stand: a text without one is a single part, two texts with one between
them have the parts of both, and the text up to the first one is the first part.  So the
parts are the only texts without separators that make up the text (`splitOn_eq_iff`).

Lines are the parts between line feeds.  Joined lines have the lines of all of them
(`lines_unlines`), and lines that each end with a line feed can be told again from the text
(`lines_terminated`).
-/

import DraftScript.Chars.Basic
import Mathlib.Tactic.Common

namespace DraftScript
namespace Chars

variable {sep : Char} {t a b : Chars}

theorem splitOn_of_not_mem (h : sep ∉ t) : splitOn sep t = [t] := by
  induction t with
  | nil => rfl
  | cons c r ih =>
    rw [List.mem_cons, not_or] at h
    rw [splitOn, if_neg (Ne.symm h.1), ih h.2]

/-- **The parts of two texts with a separator between them** are those of the one and
then those of the other. -/
theorem splitOn_append_cons (sep : Char) (a b : Chars) :
    splitOn sep (a ++ sep :: b) = splitOn sep a ++ splitOn sep b := by
  induction a with
  | nil => simp [splitOn]
  | cons c r ih =>
    rw [List.cons_append, splitOn, splitOn, ih]
    split
    · rfl
    · cases h : splitOn sep r with
      | nil => exact absurd h (splitOn_ne_nil sep r)
      | cons p ps => rfl

/-- The text up to the first separator is the first part. -/
theorem splitOn_append (h : sep ∉ a) : splitOn sep (a ++ sep :: b) = a :: splitOn sep b := by
  rw [splitOn_append_cons, splitOn_of_not_mem h, List.singleton_append]

/-- A text with a separator has a first one. -/
theorem exists_eq_append_of_mem (h : sep ∈ t) : ∃ a b, t = a ++ sep :: b ∧ sep ∉ a := by
  induction t with
  | nil => simp at h
  | cons c r ih =>
    by_cases hc : c = sep
    · exact ⟨[], r, by rw [hc]; rfl, by simp⟩
    · obtain ⟨a, b, rfl, ha⟩ := ih ((List.mem_cons.1 h).resolve_left fun e => hc e.symm)
      exact ⟨c :: a, b, rfl, by simp [ha, Ne.symm hc]⟩

/-- **Two parts have one separator between them.** -/
theorem splitOn_eq_pair_iff :
    splitOn sep t = [a, b] ↔ t = a ++ sep :: b ∧ sep ∉ a ∧ sep ∉ b := by
  constructor
  · intro h
    by_cases ht : sep ∈ t
    · obtain ⟨a', b', rfl, ha⟩ := exists_eq_append_of_mem ht
      rw [splitOn_append ha, List.cons.injEq] at h
      obtain ⟨rfl, hb⟩ := h
      by_cases hb' : sep ∈ b'
      · obtain ⟨a'', b'', rfl, ha'⟩ := exists_eq_append_of_mem hb'
        rw [splitOn_append ha', List.cons.injEq] at hb
        exact absurd hb.2 (splitOn_ne_nil sep b'')
      · rw [splitOn_of_not_mem hb', List.cons.injEq] at hb
        obtain ⟨rfl, -⟩ := hb
        exact ⟨rfl, ha, hb'⟩
    · simp [splitOn_of_not_mem ht] at h
  · rintro ⟨rfl, ha, hb⟩
    rw [splitOn_append ha, splitOn_of_not_mem hb]

/-- No part holds a separator. -/
theorem not_mem_of_mem_splitOn {p : Chars} (h : p ∈ splitOn sep t) : sep ∉ p := by
  induction t generalizing p with
  | nil => simp_all [splitOn]
  | cons c r ih =>
    unfold splitOn at h
    split at h
    · rcases List.mem_cons.1 h with rfl | h
      · exact List.not_mem_nil
      · exact ih h
    · next hc =>
      cases hr : splitOn sep r with
      | nil => exact absurd hr (splitOn_ne_nil sep r)
      | cons q qs =>
        rw [hr] at h ih
        rcases List.mem_cons.1 h with rfl | h
        · exact List.not_mem_cons_of_ne_of_not_mem (Ne.symm hc) (ih List.mem_cons_self)
        · exact ih (List.mem_cons_of_mem q h)

theorem intercalate_splitOn (sep : Char) (t : Chars) : [sep].intercalate (splitOn sep t) = t := by
  induction t with
  | nil => simp [splitOn]
  | cons c r ih =>
    rw [splitOn]
    cases hs : splitOn sep r with
    | nil => exact absurd hs (splitOn_ne_nil sep r)
    | cons p ps =>
      rw [hs] at ih
      split
      · next hc => rw [List.intercalate_cons_cons, ih, hc]; rfl
      · cases ps with
        | nil => simpa using ih
        | cons q qs =>
          rw [List.intercalate_cons_cons] at ih ⊢
          rw [List.cons_append, List.cons_append, ih]

/-- **The parts of a text** are the texts without separators that, with a separator between
one and the next, make it up. -/
theorem splitOn_eq_iff {ps : List Chars} :
    splitOn sep t = ps ↔ ps ≠ [] ∧ [sep].intercalate ps = t ∧ ∀ p ∈ ps, sep ∉ p := by
  constructor
  · rintro rfl
    exact ⟨splitOn_ne_nil sep t, intercalate_splitOn sep t, fun p hp => not_mem_of_mem_splitOn hp⟩
  · rintro ⟨hne, rfl, h⟩
    induction ps with
    | nil => exact absurd rfl hne
    | cons p ps ih =>
      rw [List.forall_mem_cons] at h
      cases ps with
      | nil => simpa using splitOn_of_not_mem h.1
      | cons q qs =>
        rw [List.intercalate_cons_cons, List.append_assoc, List.singleton_append,
          splitOn_append h.1, ih (List.cons_ne_nil q qs) h.2]

theorem cutAt_eq_some_iff : cutAt sep t = some (a, b) ↔ t = a ++ sep :: b ∧ sep ∉ a := by
  constructor
  · intro h
    refine ⟨eq_of_cutAt h, ?_⟩
    induction t generalizing a with
    | nil => simp [cutAt] at h
    | cons c r ih =>
      unfold cutAt at h
      split at h
      · next hc =>
        obtain ⟨rfl, -⟩ := Prod.mk.inj (Option.some.inj h)
        simp
      · next hc =>
        obtain ⟨⟨a', b'⟩, h', he⟩ := Option.map_eq_some_iff.1 h
        obtain ⟨rfl, rfl⟩ := Prod.mk.inj he
        simp [ih h', Ne.symm hc]
  · rintro ⟨rfl, ha⟩
    induction a with
    | nil => rw [List.nil_append, cutAt, if_pos rfl]
    | cons c r ih =>
      rw [List.mem_cons, not_or] at ha
      rw [List.cons_append, cutAt, if_neg (Ne.symm ha.1), ih ha.2]
      rfl

/-! ## Lines -/

theorem lines_ne_nil (t : Chars) : lines t ≠ [] := splitOn_ne_nil '\n' t

theorem lines_of_not_mem (h : '\n' ∉ t) : lines t = [t] := splitOn_of_not_mem h

theorem not_mem_of_mem_lines {l : Chars} (h : l ∈ lines t) : '\n' ∉ l := not_mem_of_mem_splitOn h

theorem unlines_cons (l : Chars) {ls : List Chars} (h : ls ≠ []) :
    unlines (l :: ls) = l ++ '\n' :: unlines ls := by
  cases ls with
  | nil => exact absurd rfl h
  | cons k ls => simp [unlines, List.intercalate]

/-- **Joined texts have the lines of all of them.** -/
theorem lines_unlines {ls : List Chars} (h : ls ≠ []) : lines (unlines ls) = ls.flatMap lines := by
  induction ls with
  | nil => exact absurd rfl h
  | cons l ls ih =>
    cases ls with
    | nil => simp [unlines, List.intercalate]
    | cons k ls =>
      have hne : k :: ls ≠ [] := List.cons_ne_nil k ls
      rw [unlines_cons l hne, lines, splitOn_append_cons, List.flatMap_cons, ← ih hne, lines, lines]

/-- The lines as one text, with a line feed behind each. -/
def terminated (ls : List Chars) : Chars := ls.flatMap (· ++ ['\n'])

theorem terminated_append (ls ms : List Chars) :
    terminated (ls ++ ms) = terminated ls ++ terminated ms := List.flatMap_append

theorem terminated_eq {ls : List Chars} (h : ls ≠ []) : terminated ls = unlines ls ++ ['\n'] := by
  induction ls with
  | nil => exact absurd rfl h
  | cons l ls ih =>
    cases ls with
    | nil => simp [terminated, unlines, List.intercalate]
    | cons k ls =>
      have hne : k :: ls ≠ [] := List.cons_ne_nil k ls
      rw [unlines_cons l hne, List.append_assoc, List.cons_append, ← ih hne, terminated, terminated,
        List.flatMap_cons, List.append_assoc, List.singleton_append]

/-- **The lines of a text in which each ends with a line feed,** and nothing behind the last. -/
theorem lines_terminated {ls : List Chars} (h : ∀ l ∈ ls, '\n' ∉ l) :
    lines (terminated ls) = ls ++ [[]] := by
  induction ls with
  | nil => rfl
  | cons l ls ih =>
    rw [List.forall_mem_cons] at h
    rw [terminated, List.flatMap_cons, List.append_assoc, List.singleton_append, lines,
      splitOn_append h.1, ← lines, ← terminated, ih h.2, List.cons_append]

end Chars
end DraftScript
