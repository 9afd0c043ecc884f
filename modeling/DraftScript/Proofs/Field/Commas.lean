/-
# The commas that separate, told by their places

A place of a text is the number of characters before it.  What stands there is told by what
stands before, without a scan:

| at a place | holds when |
| --- | --- |
| a quote that counts | there is a quote, and no backslash directly before it |
| inside quotes | an odd number of quotes count before it |
| depth | `[` and `(` less `]` and `)`, of those before it that are outside quotes |
| a comma that separates | there is a comma, outside quotes and at depth zero |

A scan up to a place has found all that (`run_take`), so a splitter that has read a text has
cut it at the places of the separating commas and nowhere else (`cuts_at_separators`).
-/

import DraftScript.Proofs.Field.Scan
import Mathlib.Algebra.Ring.Parity
import Mathlib.Data.Nat.Count

namespace DraftScript
namespace Field

variable {s : Scan} {c : Char} {t r : Chars} {i n : ℕ} {is : List ℕ}

/-! ## Places -/

/-- Whether a backslash stands directly before a place. -/
def IsEscapedAt (t : Chars) (i : ℕ) : Prop := 0 < i ∧ t[i - 1]? = some '\\'

/-- Whether a quote that counts stands at a place. -/
def IsQuoteAt (t : Chars) (i : ℕ) : Prop := t[i]? = some '"' ∧ ¬IsEscapedAt t i

instance (t : Chars) : DecidablePred (IsEscapedAt t) := fun _ => inferInstanceAs (Decidable (_ ∧ _))

instance (t : Chars) : DecidablePred (IsQuoteAt t) := fun _ => inferInstanceAs (Decidable (_ ∧ _))

/-- How many quotes count before a place. -/
def quotesBefore (t : Chars) (i : ℕ) : ℕ := Nat.count (IsQuoteAt t) i

/-- Whether a place is inside quotes. -/
def IsQuotedAt (t : Chars) (i : ℕ) : Prop := Odd (quotesBefore t i)

instance (t : Chars) : DecidablePred (IsQuotedAt t) := fun _ => inferInstanceAs (Decidable (Odd _))

/-- How often a character stands outside quotes before a place. -/
def unquotedBefore (c : Char) (t : Chars) (i : ℕ) : ℕ :=
  Nat.count (fun j => t[j]? = some c ∧ ¬IsQuotedAt t j) i

/-- The depth at a place: the brackets opened before it less those closed, of either kind. -/
def depthAt (t : Chars) (i : ℕ) : ℤ :=
  (unquotedBefore '[' t i + unquotedBefore '(' t i : ℕ) -
    (unquotedBefore ']' t i + unquotedBefore ')' t i : ℕ)

/-- Whether a comma that separates stands at a place. -/
def IsSeparatorAt (t : Chars) (i : ℕ) : Prop :=
  t[i]? = some ',' ∧ ¬IsQuotedAt t i ∧ depthAt t i = 0

instance (t : Chars) : DecidablePred (IsSeparatorAt t) :=
  fun _ => inferInstanceAs (Decidable (_ ∧ _ ∧ _))

/-- The places of the commas that separate, in order. -/
def separators (t : Chars) : List ℕ := (List.range t.length).filter (IsSeparatorAt t)

/-- What stands in a text from a place on between further places, none of which belongs to it. -/
def between (t : Chars) (n : ℕ) : List ℕ → List Chars
  | [] => [t.drop n]
  | i :: is => (t.take i).drop n :: between t (i + 1) is

/-! ## A scan up to a place -/

theorem quotesBefore_succ (t : Chars) (i : ℕ) :
    quotesBefore t (i + 1) = quotesBefore t i + if IsQuoteAt t i then 1 else 0 :=
  Nat.count_succ ..

/-- A quote that counts changes between inside and outside. -/
theorem isQuotedAt_succ (t : Chars) (i : ℕ) :
    IsQuotedAt t (i + 1) ↔ (IsQuotedAt t i ↔ ¬IsQuoteAt t i) := by
  rw [IsQuotedAt, quotesBefore_succ]
  split
  · next h => simp [IsQuotedAt, h, Nat.odd_add_one]
  · next h => simp [IsQuotedAt, h]

theorem isEscapedAt_succ (t : Chars) (i : ℕ) : IsEscapedAt t (i + 1) ↔ t[i]? = some '\\' := by
  simp [IsEscapedAt]

/-- The weight of a character counts which of the brackets it is. -/
theorem Scan.weight_eq (c : Char) : Scan.weight c =
    ((if c = '[' then 1 else 0) + (if c = '(' then 1 else 0) : ℕ) -
      ((if c = ']' then 1 else 0) + (if c = ')' then 1 else 0) : ℕ) := by
  by_cases h : c = '[' ∨ c = '(' ∨ c = ']' ∨ c = ')'
  · rcases h with rfl | rfl | rfl | rfl <;> decide
  · simp only [not_or] at h
    simp [weight, h]

/-- Outside quotes a character changes the depth by its weight. -/
theorem depthAt_succ (h : t[i]? = some c) :
    depthAt t (i + 1) = if IsQuotedAt t i then depthAt t i else depthAt t i + Scan.weight c := by
  have key : ∀ d, unquotedBefore d t (i + 1) =
      unquotedBefore d t i + if c = d ∧ ¬IsQuotedAt t i then 1 else 0 := fun d => by
    rw [unquotedBefore, Nat.count_succ, h]
    simp [unquotedBefore]
  by_cases hq : IsQuotedAt t i
  · simp [depthAt, key, hq]
  · rw [if_neg hq, Scan.weight_eq]
    simp only [depthAt, key, hq, not_false_eq_true, and_true]
    omega

/-- **A scan up to a place knows what stands there.** -/
theorem run_take (h : i ≤ t.length) : Scan.run {} (t.take i) =
    { depth := depthAt t i, inQuotes := decide (IsQuotedAt t i),
      afterBackslash := decide (IsEscapedAt t i) } := by
  induction i with
  | zero => rfl
  | succ i ih =>
    have hc : t[i]? = some t[i] := List.getElem?_eq_getElem h
    have hq : Scan.isQuote ⟨depthAt t i, decide (IsQuotedAt t i), decide (IsEscapedAt t i)⟩ t[i] =
        decide (IsQuoteAt t i) := by
      simp [Scan.isQuote, IsQuoteAt, hc, beq_eq_decide]
    rw [← List.take_concat_get' t i h, Scan.run_append, ih (Nat.le_of_lt h), Scan.run_cons,
      Scan.run_nil, Scan.step, hq, depthAt_succ hc]
    simp only [decide_eq_true_eq, isQuotedAt_succ, isEscapedAt_succ, hc, Option.some.injEq]
    -- Each part of the scan now changes as the count for it does.
    by_cases h₁ : IsQuotedAt t i <;> by_cases h₂ : IsQuoteAt t i <;> simp [h₁, h₂, beq_eq_decide]

/-- So a comma separates in the scan exactly where a comma that separates stands. -/
theorem separates_run_take (h : i < t.length) :
    (Scan.run {} (t.take i)).separates t[i] = decide (IsSeparatorAt t i) := by
  rw [run_take h.le]
  simp [Scan.separates, IsSeparatorAt, List.getElem?_eq_getElem h, beq_eq_decide, Bool.and_assoc]

/-! ## Pieces between places -/

/-- One character more at the front belongs to what stands up to the first place. -/
theorem between_of_lt (h : t[n]? = some c) (hi : ∀ i ∈ is, n < i) :
    between t n is = (between t (n + 1) is).modifyHead (c :: ·) := by
  obtain ⟨hn, hc⟩ := List.getElem?_eq_some_iff.1 h
  cases is with
  | nil => rw [between, between, List.drop_eq_getElem_cons hn, hc, List.modifyHead_cons]
  | cons i is =>
    have hni : n < (t.take i).length := by
      rw [List.length_take]
      exact lt_min (hi i (by simp)) hn
    rw [between, between, List.drop_eq_getElem_cons hni, List.getElem_take, hc, List.modifyHead_cons]

/-- The pieces of what is left of a text stand between the places that are left. -/
theorem pieces_run (a r : Chars) : pieces (Scan.run {} a) r =
    between (a ++ r) a.length
      ((List.range' a.length r.length).filter (IsSeparatorAt (a ++ r))) := by
  -- What has been read, `a`, grows by what is left, so that places are those of the whole text.
  induction r generalizing a with
  | nil => simp [pieces, between]
  | cons c r ih =>
    have hc : (a ++ c :: r)[a.length]? = some c := by simp
    have hs : (Scan.run {} a).separates c = decide (IsSeparatorAt (a ++ c :: r) a.length) := by
      simpa using separates_run_take (t := a ++ c :: r) (i := a.length) (by simp)
    have ih : pieces ((Scan.run {} a).step c) r = between (a ++ c :: r) (a.length + 1)
        ((List.range' (a.length + 1) r.length).filter (IsSeparatorAt (a ++ c :: r))) := by
      simpa [Scan.run_append] using ih (a ++ [c])
    rw [List.length_cons, List.range'_succ]
    by_cases h : IsSeparatorAt (a ++ c :: r) a.length
    · rw [pieces, if_pos (by simpa [hs] using h), ih, List.filter_cons_of_pos (by simpa using h),
        between]
      simp
    · have hu : (Scan.run {} a).unbroken [c] = true := by simp [Scan.unbroken, hs, h]
      have hlt : ∀ i ∈ (List.range' (a.length + 1) r.length).filter (IsSeparatorAt (a ++ c :: r)),
          a.length < i := fun i hi => (List.mem_range'_1.1 (List.mem_of_mem_filter hi)).1
      rw [List.filter_cons_of_neg (by simpa using h), between_of_lt hc hlt, ← ih]
      exact pieces_append hu

/-- **The pieces of a text stand between the commas that separate.** -/
theorem pieces_eq_between (t : Chars) : pieces {} t = between t 0 (separators t) := by
  rw [separators, List.range_eq_range']
  exact pieces_run [] t

/-! ## The splitter -/

namespace Splitter

@[simp] theorem run_nil (s : Splitter) : s.run [] = s := rfl

@[simp] theorem run_cons (s : Splitter) (c : Char) (t : Chars) :
    s.run (c :: t) = (s.step c).run t := rfl

theorem step_of_separates {s : Splitter} (h : s.scan.separates c = true) : s.step c =
    { position := s.position + 1, scan := s.scan.step c, fields := s.last :: s.fields } :=
  if_pos h

theorem step_of_not {s : Splitter} (h : s.scan.separates c = false) : s.step c =
    { s with position := s.position + 1, scan := s.scan.step c, current := c :: s.current } :=
  if_neg (by simp [h])

theorem position_run (s : Splitter) (t : Chars) :
    (s.run t).position = s.position + t.length := by
  induction t generalizing s with
  | nil => rfl
  | cons c t ih =>
    have hp : (s.step c).position = s.position + 1 := by unfold step; split <;> rfl
    rw [run_cons, ih, hp, List.length_cons, Nat.add_assoc, Nat.add_comm 1]

theorem scan_run (s : Splitter) (t : Chars) : (s.run t).scan = s.scan.run t := by
  induction t generalizing s with
  | nil => rfl
  | cons c t ih =>
    have hs : (s.step c).scan = s.scan.step c := by unfold step; split <;> rfl
    rw [run_cons, ih, hs, Scan.run_cons]

theorem modifyHead_nil_append (ps : List Chars) : ps.modifyHead (([] : Chars) ++ ·) = ps := by
  cases ps <;> rfl

/-- What a splitter has cut, with the text behind the last cut, are the fields that it had cut
and the pieces of what it has read since, of which the first goes on with what was there. -/
theorem fields_run (s : Splitter) (t : Chars) : ((s.run t).last :: (s.run t).fields).reverse =
    s.fields.reverse ++
      ((pieces s.scan t).modifyHead (s.current.reverse ++ ·)).map Chars.trim := by
  induction t generalizing s with
  | nil => simp [pieces, last]
  | cons c t ih =>
    rw [run_cons, ih]
    cases h : s.scan.separates c with
    | true =>
      rw [step_of_separates h, pieces, if_pos h, List.reverse_nil, modifyHead_nil_append]
      simp [last]
    | false =>
      have hp : pieces s.scan (c :: t) = (pieces (s.scan.step c) t).modifyHead ([c] ++ ·) :=
        pieces_append (a := [c]) (by simp [Scan.unbroken, h])
      rw [step_of_not h, hp, List.modifyHead_modifyHead]
      simp [Function.comp_def]

/-- **The fields of a splitter that has read a text are those that the text is split into.** -/
theorem result_run (t : Chars) : (run {} t).result = split t := by
  obtain ⟨ts, a, hp⟩ := (pieces {} t).eq_nil_or_concat'.resolve_left (pieces_ne_nil {} t)
  have hf : ((Splitter.run {} t).last :: (Splitter.run {} t).fields).reverse =
      (pieces {} t).map Chars.trim :=
    (fields_run {} t).trans (congrArg (List.map Chars.trim) (modifyHead_nil_append _))
  rw [hp, List.reverse_cons, List.map_append, List.map_singleton] at hf
  obtain ⟨hts, ha⟩ := List.append_inj' hf rfl
  rw [split_of_pieces hp, result, ← hts, List.singleton_injective ha]
  split <;> simp

/-- **A splitter cuts a text at the commas that separate and nowhere else.** Its fields are the
trimmed texts between them in order, of which only a blank one at the end does not count, and
they are the fields that the text is split into. It has read the whole text, its depth is that
at the end of the text, and it is inside quotes when the text has an odd number of quotes that
count. -/
theorem cuts_at_separators (t : Chars) :
    (∃ ts a, between t 0 (separators t) = ts ++ [a] ∧
      (Splitter.run {} t).result =
        ts.map Chars.trim ++ if Chars.trim a = [] then [] else [Chars.trim a]) ∧
    (Splitter.run {} t).result = split t ∧
    (Splitter.run {} t).position = t.length ∧
    (Splitter.run {} t).scan.depth = depthAt t t.length ∧
    ((Splitter.run {} t).scan.inQuotes = true ↔ Odd (quotesBefore t t.length)) := by
  have hs : (Splitter.run {} t).scan = Scan.run {} (t.take t.length) := by
    rw [Splitter.scan_run, List.take_length]
  refine ⟨?_, Splitter.result_run t, ?_, ?_, ?_⟩
  · obtain ⟨ts, a, hp⟩ := (pieces {} t).eq_nil_or_concat'.resolve_left (pieces_ne_nil {} t)
    refine ⟨ts, a, by rw [← pieces_eq_between, hp], ?_⟩
    rw [Splitter.result_run, split_of_pieces hp]
  · rw [Splitter.position_run, Nat.zero_add]
  · rw [hs, run_take le_rfl]
  · rw [hs, run_take le_rfl, decide_eq_true_eq, IsQuotedAt]

/-- Neither a comma in brackets nor one behind an escaped quote separates. -/
example : separators "a=[1,2],\"x\\\",y\",b" = [7, 15] := by decide +kernel

end Splitter

end Field
end DraftScript
