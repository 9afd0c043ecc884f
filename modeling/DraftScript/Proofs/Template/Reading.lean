/-
# How a template is read

Reading takes one piece after another, and each piece takes a character of the template at
least, so the bound on their number is never met (`readPieces_eq_read`).  What is left is an
equation for each way in which a template can begin:

| beginning | piece |
| --- | --- |
| a character that is no brace | the character |
| a doubled brace | one brace |
| a brace and a field | the field |
-/

import DraftScript.Proofs.Steps
import DraftScript.Template.Basic
import Mathlib.Order.Nat

namespace DraftScript
namespace Template

/-! ## What reading a field takes -/

theorem length_readPath {inBrackets : Bool} {t : Chars} {p : Chars × Char × Chars}
    (h : readPath inBrackets t = .ok p) : p.2.2.length < t.length := by
  induction t generalizing inBrackets p with
  | nil => cases h
  | cons c r ih =>
    rw [readPath] at h
    split at h
    · obtain ⟨q, hq, rfl⟩ := exists_of_map_eq_ok h
      exact (ih hq).trans (Nat.lt_succ_self _)
    · split at h
      · cases h
      · split at h
        · obtain rfl := Except.ok.inj h
          exact Nat.lt_succ_self _
        · obtain ⟨q, hq, rfl⟩ := exists_of_map_eq_ok h
          exact (ih hq).trans (Nat.lt_succ_self _)

theorem length_readRule {depth : ℕ} {t : Chars} {p : Chars × Chars}
    (h : readRule depth t = .ok p) : p.2.length < t.length := by
  induction t generalizing depth p with
  | nil => cases h
  | cons c r ih =>
    unfold readRule at h
    split at h
    · split at h
      · obtain rfl := Except.ok.inj h
        exact Nat.lt_succ_self _
      · obtain ⟨q, hq, rfl⟩ := exists_of_map_eq_ok h
        exact (ih hq).trans (Nat.lt_succ_self _)
    · obtain ⟨q, hq, rfl⟩ := exists_of_map_eq_ok h
      exact (ih hq).trans (Nat.lt_succ_self _)

theorem length_readConversion {t : Chars} {p : Char × Bool × Chars}
    (h : readConversion t = .ok p) : p.2.2.length < t.length := by
  have hlt (c d : Char) (r : Chars) : r.length < (c :: d :: r).length :=
    Nat.lt_add_of_pos_right (n := r.length) (k := 2) (by decide)
  unfold readConversion at h
  split at h
  · cases h
  · obtain rfl := Except.ok.inj h
    exact Nat.zero_lt_one
  · split at h
    · obtain rfl := Except.ok.inj h
      exact hlt _ _ _
    · split at h
      · obtain rfl := Except.ok.inj h
        exact hlt _ _ _
      · cases h

theorem length_readField {t : Chars} {p : Field × Chars} (h : readField t = .ok p) :
    p.2.length < t.length := by
  obtain ⟨⟨path, stop, r⟩, hpath, h⟩ := exists_of_bind_eq_ok h
  have hr := length_readPath hpath
  dsimp only at h hr
  split at h
  · obtain rfl := Except.ok.inj h
    exact hr
  · split at h
    · obtain ⟨⟨rule, r'⟩, hrule, h⟩ := exists_of_bind_eq_ok h
      obtain rfl := Except.ok.inj h
      exact (length_readRule hrule).trans hr
    · obtain ⟨⟨c, more, r'⟩, hconv, h⟩ := exists_of_bind_eq_ok h
      have hr' := (length_readConversion hconv).trans hr
      dsimp only at h hr'
      split at h
      · obtain ⟨⟨rule, r''⟩, hrule, h⟩ := exists_of_bind_eq_ok h
        obtain rfl := Except.ok.inj h
        exact (length_readRule hrule).trans hr'
      · obtain rfl := Except.ok.inj h
        exact hr'

/-! ## The bound on the pieces -/

/-- Bounds that are not less than the length of a template give the same pieces. -/
theorem readPieces_congr {m n : ℕ} {t : Chars} (hm : t.length ≤ m) (hn : t.length ≤ n) :
    readPieces m t = readPieces n t := by
  induction m generalizing n t with
  | zero =>
    obtain rfl := List.length_eq_zero_iff.1 (Nat.le_zero.1 hm)
    cases n <;> rfl
  | succ m ih =>
    cases t with
    | nil => cases n <;> rfl
    | cons c r =>
      obtain ⟨n, rfl⟩ := Nat.exists_eq_add_one_of_ne_zero (Nat.ne_zero_of_lt hn)
      have hr {r' : Chars} (h : r'.length ≤ r.length) : readPieces m r' = readPieces n r' :=
        ih (h.trans (Nat.le_of_succ_le_succ hm)) (h.trans (Nat.le_of_succ_le_succ hn))
      unfold readPieces
      cases r with
      | nil => rw [hr le_rfl]
      | cons d r' =>
        have hd : r'.length ≤ (d :: r').length := Nat.le_succ _
        cases hf : readField (d :: r') with
        | error m' => simp only [hf, hr hd, hr le_rfl]
        | ok p =>
          have hp := (length_readField hf).le
          simp only [hf, hr hd, hr le_rfl, hr hp]

/-- **The bound on the pieces of a template is never met.** -/
theorem readPieces_eq_read {n : ℕ} {t : Chars} (h : t.length ≤ n) : readPieces n t = read t :=
  readPieces_congr h le_rfl

/-! ## How a template begins -/

variable {c : Char} {t rest path : Chars} {f : Field}

theorem read_cons_of_ne (ho : c ≠ '\x7b') (hc : c ≠ '\x7d') (t : Chars) :
    read (c :: t) = .char c :: read t := by
  rw [read, List.length_cons, read]
  simp only [readPieces, if_neg ho, if_neg hc]

/-- **A doubled brace stands for a single one.** -/
theorem read_doubled (h : c = '\x7b' ∨ c = '\x7d') (t : Chars) :
    read (c :: c :: t) = .char c :: read t := by
  have hn : t.length ≤ (c :: t).length := Nat.le_succ _
  rw [read, List.length_cons]
  rcases h with rfl | rfl
  · simp only [readPieces, if_true, readPieces_eq_read hn]
  · simp only [readPieces, if_true, readPieces_eq_read hn]
    rfl

/-- No field begins with an opening brace. -/
theorem exists_cons_of_readField (h : readField t = .ok (f, rest)) :
    ∃ d r, t = d :: r ∧ d ≠ '\x7b' := by
  cases t with
  | nil => cases h
  | cons d r =>
    refine ⟨d, r, rfl, ?_⟩
    rintro rfl
    cases h

/-- **A field is read behind a brace.** -/
theorem read_field (h : readField t = .ok (f, rest)) :
    read ('\x7b' :: t) = .field f :: read rest := by
  have hrest := (length_readField h).le
  obtain ⟨d, r, rfl, hd⟩ := exists_cons_of_readField h
  rw [read, List.length_cons]
  simp only [readPieces, if_true, if_neg hd, h, readPieces_eq_read hrest]

/-- A path without brackets and without characters that end it goes up to the brace. -/
theorem readPath_append (h : ∀ c ∈ path, c ∉ ['\x7b', '\x7d', '[', ':', '!']) (rest : Chars) :
    readPath false (path ++ '\x7d' :: rest) = .ok (path, '\x7d', rest) := by
  induction path with
  | nil => rfl
  | cons c path ih =>
    rw [List.forall_mem_cons] at h
    simp only [List.mem_cons, List.not_mem_nil, or_false, not_or] at h
    have hb : (c == '[') = false := beq_false_of_ne h.1.2.2.1
    rw [List.cons_append, readPath, hb, ih (by simpa using h.2)]
    simp [h.1, Except.map]

/-- **A field that is a path alone.** -/
theorem readField_append (h : ∀ c ∈ path, c ∉ ['\x7b', '\x7d', '[', ':', '!']) (rest : Chars) :
    readField (path ++ '\x7d' :: rest) = .ok (⟨path, none, []⟩, rest) := by
  rw [readField, readPath_append h]
  rfl

end Template
end DraftScript
