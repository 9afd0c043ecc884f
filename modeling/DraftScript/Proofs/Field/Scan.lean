/-
# Which commas separate fields

A text is `Closed` when none of its commas separates and it ends outside quotes and
brackets.  The scan after a closed text separates at a comma and begins anew behind it,
so closed texts that are joined by commas are the pieces of what they make
(`pieces_intercalate`), and trimmed closed fields are what an argument list made of them
is split into (`split_intercalate`).  The last of them may leave quotes or brackets open.

What a text does to the scan is known for two kinds of texts.  One without quotes and
brackets leaves the depth and the quotation as they are (`run_of_isFlat`).  One inside
quotes whose own quotes each follow a backslash stays inside them (`run_of_isEscaped`).
-/

import DraftScript.Field
import DraftScript.Proofs.Chars.Trim
import Mathlib.Data.List.Induction
import Mathlib.Data.List.Infix

namespace DraftScript
namespace Field

variable {s : Scan} {c o k : Char} {t a b r : Chars} {ts : List Chars}

namespace Scan

@[simp] theorem run_nil (s : Scan) : s.run [] = s := rfl

@[simp] theorem run_cons (s : Scan) (c : Char) (t : Chars) : s.run (c :: t) = (s.step c).run t :=
  rfl

/-- Whether no comma of a text separates, read from a scan on. -/
def unbroken (s : Scan) : Chars → Bool
  | [] => true
  | c :: r => !s.separates c && (s.step c).unbroken r

theorem unbroken_append (s : Scan) (a b : Chars) :
    s.unbroken (a ++ b) = (s.unbroken a && (s.run a).unbroken b) := by
  induction a generalizing s with
  | nil => rfl
  | cons c a ih => rw [List.cons_append, unbroken, unbroken, ih, run_cons, Bool.and_assoc]

/-- **Behind a comma that separates the scan begins anew.** -/
theorem step_of_separates (h : s.separates c = true) : s.step c = {} := by
  simp only [separates, Bool.and_eq_true, beq_iff_eq, Bool.not_eq_true'] at h
  obtain ⟨⟨rfl, hq⟩, hd⟩ := h
  simp [step, hq, hd, isQuote, weight]

theorem separates_of_ne (h : c ≠ ',') : s.separates c = false := by
  simp [separates, h]

theorem isQuote_of_ne (h : c ≠ '"') : s.isQuote c = false := by
  rw [isQuote, beq_false_of_ne h, Bool.false_and]

/-- At the start a blank changes nothing. -/
theorem step_of_isBlank (h : Chars.isBlank c = true) : step {} c = {} ∧ separates {} c = false := by
  have hne : ∀ d, Chars.isBlank d = false → c ≠ d := by
    rintro d hd rfl
    rw [h] at hd
    cases hd
  have hw : weight c = 0 := by
    rw [weight, if_neg (by simp [hne '[' (by decide), hne '(' (by decide)]),
      if_neg (by simp [hne ']' (by decide), hne ')' (by decide)])]
  have hb : (c == '\\') = false := beq_false_of_ne (hne '\\' (by decide))
  refine ⟨?_, separates_of_ne (hne ',' (by decide))⟩
  rw [step, isQuote_of_ne (hne '"' (by decide)), hw, hb]
  rfl

theorem run_of_isBlank (h : ∀ c ∈ t, Chars.isBlank c = true) :
    unbroken {} t = true ∧ run {} t = {} := by
  induction t with
  | nil => exact ⟨rfl, rfl⟩
  | cons c t ih =>
    rw [List.forall_mem_cons] at h
    obtain ⟨hs, hc⟩ := step_of_isBlank h.1
    rw [unbroken, run_cons, hs, hc]
    exact ih h.2

/-! ## Texts without quotes and brackets -/

/-- Whether a text has no quote, bracket or parenthesis. -/
def IsFlat (t : Chars) : Prop := ∀ c ∈ t, c ≠ '"' ∧ weight c = 0

instance (t : Chars) : Decidable (IsFlat t) := List.decidableBAll _ t

theorem isFlat_cons : IsFlat (c :: t) ↔ (c ≠ '"' ∧ weight c = 0) ∧ IsFlat t :=
  List.forall_mem_cons

theorem run_of_isFlat (h : IsFlat t) :
    (s.run t).depth = s.depth ∧ (s.run t).inQuotes = s.inQuotes := by
  induction t generalizing s with
  | nil => exact ⟨rfl, rfl⟩
  | cons c r ih =>
    obtain ⟨⟨hq, hw⟩, hr⟩ := isFlat_cons.1 h
    obtain ⟨hd, hi⟩ := ih (s := s.step c) hr
    refine ⟨hd.trans ?_, hi.trans ?_⟩
    · simp [step, hw]
    · simp [step, isQuote_of_ne hq]

/-- A flat text is broken at most where it has commas at depth zero. -/
theorem unbroken_of_isFlat (h : IsFlat t) (hc : ',' ∉ t ∨ s.depth ≠ 0) :
    s.unbroken t = true := by
  induction t generalizing s with
  | nil => rfl
  | cons c r ih =>
    obtain ⟨⟨hq, hw⟩, hr⟩ := isFlat_cons.1 h
    have hs : s.separates c = false := by
      rcases hc with hc | hd
      · exact separates_of_ne fun e => hc (by simp [e])
      · simp [separates, hd]
    have hc' : ',' ∉ r ∨ (s.step c).depth ≠ 0 :=
      hc.imp (fun hc hm => hc (List.mem_cons_of_mem c hm)) fun hd => by simpa [step, hw] using hd
    rw [unbroken, hs, ih hr hc']
    rfl

/-! ## Texts inside quotes -/

/-- Whether each quote of a text follows a backslash of it. -/
def IsEscaped (t : Chars) : Prop := ∀ a b, t = a ++ '"' :: b → a.getLast? = some '\\'

/-- It is enough to look at the beginnings that end in a quote. -/
theorem isEscaped_iff_inits : IsEscaped t ↔
    ∀ p ∈ t.inits, p.getLast? = some '"' → p.dropLast.getLast? = some '\\' := by
  constructor
  · intro h p hp hl
    obtain ⟨a, rfl⟩ := List.getLast?_eq_some_iff.1 hl
    obtain ⟨b, rfl⟩ := (List.mem_inits _ _).1 hp
    rw [List.dropLast_concat]
    exact h a b (by simp)
  · rintro h a b rfl
    have := h (a ++ ['"']) ((List.mem_inits _ _).2 ⟨b, by simp⟩) List.getLast?_concat
    rwa [List.dropLast_concat] at this

instance (t : Chars) : Decidable (IsEscaped t) := decidable_of_iff _ isEscaped_iff_inits.symm

theorem IsEscaped.of_append (h : IsEscaped (a ++ b)) : IsEscaped a := by
  rintro a' b' rfl
  exact h a' (b' ++ b) (by simp)

/-- **Escaped quotes do not end a quotation,** and inside it no comma separates. -/
theorem run_of_isEscaped (h : IsEscaped t) (hs : s.inQuotes = true)
    (hb : s.afterBackslash = false) :
    s.unbroken t = true ∧
      s.run t = { s with inQuotes := true, afterBackslash := t.getLast? == some '\\' } := by
  induction t using List.reverseRecOn with
  | nil =>
    refine ⟨rfl, ?_⟩
    cases s
    simp_all
  | append_singleton t c ih =>
    obtain ⟨hu, hr⟩ := ih h.of_append
    have hq : (s.run t).isQuote c = false := by
      by_cases hc : c = '"'
      · subst hc
        rw [hr, isQuote, h t [] rfl]
        rfl
      · exact isQuote_of_ne hc
    refine ⟨?_, ?_⟩
    · rw [unbroken_append, hu, hr]
      simp [unbroken, separates]
    · rw [run_append, run_cons, run_nil, step, hq, hr]
      simp

end Scan

/-! ## Pieces -/

/-- A text that is not broken belongs to the first piece. -/
theorem pieces_append (h : s.unbroken a = true) :
    pieces s (a ++ r) = (pieces (s.run a) r).modifyHead (a ++ ·) := by
  induction a generalizing s with
  | nil =>
    cases hp : pieces s r with
    | nil => exact absurd hp (pieces_ne_nil s r)
    | cons p ps => simp [hp]
  | cons c a ih =>
    rw [Scan.unbroken, Bool.and_eq_true, Bool.not_eq_true'] at h
    rw [List.cons_append, pieces, if_neg (by simp [h.1]), ih h.2, Scan.run_cons]
    cases hp : pieces ((s.step c).run a) r with
    | nil => exact absurd hp (pieces_ne_nil _ r)
    | cons p ps => rfl

/-- A comma that separates ends a piece, and the pieces behind it are those of the rest. -/
theorem pieces_append_of_separates (h : (s.run a).separates ',' = true) :
    pieces s (a ++ ',' :: r) = pieces s a ++ pieces {} r := by
  induction a generalizing s with
  | nil =>
    rw [Scan.run_nil] at h
    have hp : pieces s (',' :: r) = [] :: pieces (s.step ',') r := by rw [pieces, if_pos h]
    rw [List.nil_append, hp, Scan.step_of_separates h]
    rfl
  | cons c a ih =>
    rw [List.cons_append, pieces, pieces, ih h]
    split
    · rfl
    · cases hp : pieces (s.step c) a with
      | nil => exact absurd hp (pieces_ne_nil _ a)
      | cons p ps => rfl

theorem pieces_of_unbroken (h : Scan.unbroken {} t = true) : pieces {} t = [t] := by
  have := pieces_append (r := []) h
  rwa [List.append_nil, pieces, List.modifyHead_cons, List.append_nil] at this

/-- Whether a text is closed: none of its commas separates, and it ends outside quotes
and brackets. -/
structure Closed (t : Chars) : Prop where
  unbroken : Scan.unbroken {} t = true
  depth : (Scan.run {} t).depth = 0
  inQuotes : (Scan.run {} t).inQuotes = false

instance (t : Chars) : Decidable (Closed t) :=
  decidable_of_iff (_ ∧ _ ∧ _)
    ⟨fun h => ⟨h.1, h.2.1, h.2.2⟩, fun h => ⟨h.unbroken, h.depth, h.inQuotes⟩⟩

/-- A comma behind a closed text separates. -/
theorem pieces_append_comma (h : Closed a) : pieces {} (a ++ ',' :: r) = a :: pieces {} r := by
  have hs : (Scan.run {} a).separates ',' = true := by
    simp [Scan.separates, h.depth, h.inQuotes]
  rw [pieces_append_of_separates hs, pieces_of_unbroken h.unbroken, List.singleton_append]

/-- **Texts that commas join are the pieces of what they make** if they are closed. The last
need only be unbroken. -/
theorem pieces_intercalate (h : ∀ t ∈ ts, Closed t) (ha : Scan.unbroken {} a = true) :
    pieces {} (",".toList.intercalate (ts ++ [a])) = ts ++ [a] := by
  induction ts with
  | nil => rw [List.nil_append, List.intercalate_singleton, pieces_of_unbroken ha]
  | cons t us ih =>
    obtain ⟨ht, hus⟩ := List.forall_mem_cons.1 h
    rw [List.cons_append, List.intercalate_cons_of_ne_nil (by simp), List.append_assoc]
    exact (pieces_append_comma ht).trans (congrArg _ (ih hus))

/-! ## Closed texts -/

namespace Closed

/-- What begins anew behind a text is closed with it. -/
theorem of_run_eq (ha : Scan.unbroken {} a = true) (hr : Scan.run {} a = {}) (hb : Closed b) :
    Closed (a ++ b) := by
  refine ⟨?_, ?_, ?_⟩
  · rw [Scan.unbroken_append, ha, hr, hb.unbroken]
    rfl
  · rw [Scan.run_append, hr, hb.depth]
  · rw [Scan.run_append, hr, hb.inQuotes]

/-- Blanks before a closed text are part of it. -/
theorem blanks (hb : ∀ c ∈ b, Chars.isBlank c = true) (h : Closed t) : Closed (b ++ t) :=
  of_run_eq (Scan.run_of_isBlank hb).1 (Scan.run_of_isBlank hb).2 h

theorem of_isFlat (h : Scan.IsFlat t) (hc : ',' ∉ t) : Closed t :=
  ⟨Scan.unbroken_of_isFlat h (.inl hc), (Scan.run_of_isFlat h).1, (Scan.run_of_isFlat h).2⟩

/-- A flat text between brackets or parentheses is closed. -/
theorem of_brackets (ho : o = '[' ∨ o = '(') (hk : k = ']' ∨ k = ')') (h : Scan.IsFlat t) :
    Closed (o :: (t ++ [k])) := by
  have hs : Scan.step {} o = { depth := 1 } ∧ Scan.separates {} o = false := by
    rcases ho with rfl | rfl <;> decide
  have hw : Scan.weight k = -1 ∧ k ≠ '"' ∧ k ≠ ',' := by
    rcases hk with rfl | rfl <;> decide
  have hu := Scan.unbroken_of_isFlat (s := { depth := 1 }) h (.inr (by decide))
  obtain ⟨hd, hi⟩ := Scan.run_of_isFlat (s := { depth := 1 }) h
  refine ⟨?_, ?_, ?_⟩
  · rw [Scan.unbroken, hs.1, hs.2, Scan.unbroken_append, hu, Scan.unbroken,
      Scan.separates_of_ne hw.2.2]
    rfl
  · rw [Scan.run_cons, Scan.run_append, hs.1, Scan.run_cons, Scan.run_nil, Scan.step, hd, hi, hw.1]
    rfl
  · rw [Scan.run_cons, Scan.run_append, hs.1, Scan.run_cons, Scan.run_nil, Scan.step,
      Scan.isQuote_of_ne hw.2.1, hi]
    rfl

/-- A text between quotes is closed if its quotes are escaped and it does not escape the
last one. -/
theorem of_quotes (h : Scan.IsEscaped t) (hl : t.getLast? ≠ some '\\') :
    Closed ('"' :: (t ++ ['"'])) := by
  have hs : Scan.step {} '"' = { inQuotes := true } := by decide
  obtain ⟨hu, hr⟩ := Scan.run_of_isEscaped (s := { inQuotes := true }) h rfl rfl
  rw [beq_false_of_ne hl] at hr
  have hrun : Scan.run {} ('"' :: (t ++ ['"'])) = {} := by
    rw [Scan.run_cons, Scan.run_append, hs, hr]
    decide
  refine ⟨?_, by rw [hrun], by rw [hrun]⟩
  rw [Scan.unbroken, hs, Scan.unbroken_append, hu, hr]
  decide

end Closed

/-! ## Splitting -/

/-- Joining with a comma and a text is joining with a comma what has the text before it. -/
theorem intercalate_comma_append (b t : Chars) (ts : List Chars) :
    (',' :: b).intercalate (t :: ts) = ",".toList.intercalate (t :: ts.map (b ++ ·)) := by
  induction ts generalizing t with
  | nil => rfl
  | cons u ts ih =>
    rw [List.map_cons, List.intercalate_cons_cons, List.intercalate_cons_cons, ih]
    cases ts <;> simp [List.intercalate_cons_cons]

/-- The fields are the pieces, trimmed, of which a blank one at the end does not count. -/
theorem split_of_pieces (h : pieces {} t = ts ++ [a]) :
    split t = ts.map Chars.trim ++ if Chars.trim a = [] then [] else [Chars.trim a] := by
  rw [split, h, dropEmptyLast, List.map_append, List.map_singleton, List.getLast?_concat]
  split
  · next hl => rw [if_pos (Option.some.inj hl), List.dropLast_concat, List.append_nil]
  · next hl => rw [if_neg fun he => hl (congrArg some he)]

/-- An unbroken text is split into itself alone. -/
theorem split_of_unbroken (h : Scan.unbroken {} t = true) :
    split t = if Chars.trim t = [] then [] else [Chars.trim t] := by
  have hp : pieces {} t = [] ++ [t] := pieces_of_unbroken h
  rw [split_of_pieces hp]
  rfl

/-- **An argument list is split into the fields that it is made of,** trimmed, if they are
closed, of which the last need only be unbroken, and the last is not blank. Blanks behind the
commas are not seen. -/
theorem split_intercalate_concat (hb : ∀ c ∈ b, Chars.isBlank c = true) (hc : ∀ t ∈ ts, Closed t)
    (ha : Scan.unbroken {} a = true) (hl : Chars.trim a ≠ []) :
    split ((',' :: b).intercalate (ts ++ [a])) = (ts ++ [a]).map Chars.trim := by
  have htb : ∀ u, Chars.trim (b ++ u) = Chars.trim u := fun u => by
    simpa using Chars.trim_append_of_blank (t := u) hb (b := []) (by simp)
  cases ts with
  | nil =>
    rw [List.nil_append, List.intercalate_singleton, split_of_unbroken ha, if_neg hl]
    rfl
  | cons t ts =>
    obtain ⟨ht, hts⟩ := List.forall_mem_cons.1 hc
    have hcs : ∀ u ∈ t :: ts.map (b ++ ·), Closed u :=
      List.forall_mem_cons.2 ⟨ht, List.forall_mem_map.2 fun u hu => (hts u hu).blanks hb⟩
    have hba : Scan.unbroken {} (b ++ a) = true := by
      rw [Scan.unbroken_append, (Scan.run_of_isBlank hb).1, (Scan.run_of_isBlank hb).2, ha]
      rfl
    have hj : (',' :: b).intercalate (t :: ts ++ [a]) =
        ",".toList.intercalate (t :: ts.map (b ++ ·) ++ [b ++ a]) := by
      rw [List.cons_append, intercalate_comma_append, List.map_append]
      rfl
    rw [hj, split_of_pieces (pieces_intercalate hcs hba), htb, if_neg hl]
    simp [htb]

/-- It is split so if all its fields are closed. -/
theorem split_intercalate_trim (hb : ∀ c ∈ b, Chars.isBlank c = true) (hc : ∀ t ∈ ts, Closed t)
    (hl : (ts.map Chars.trim).getLast? ≠ some []) :
    split ((',' :: b).intercalate ts) = ts.map Chars.trim := by
  rcases ts.eq_nil_or_concat' with rfl | ⟨us, a, rfl⟩
  · rfl
  · obtain ⟨hus, ha⟩ := List.forall_mem_append.1 hc
    exact split_intercalate_concat hb hus (List.forall_mem_singleton.1 ha).unbroken
      (by simpa using hl)

/-- **Trimmed closed fields are what an argument list made of them is split into.** -/
theorem split_intercalate (hc : ∀ t ∈ ts, Closed t) (ht : ∀ t ∈ ts, Chars.trim t = t)
    (hl : ts.getLast? ≠ some []) : split (", ".toList.intercalate ts) = ts := by
  have hm : ts.map Chars.trim = ts := (List.map_congr_left ht).trans (List.map_id' ts)
  have hb : ∀ c ∈ [' '], Chars.isBlank c = true := List.forall_mem_singleton.2 rfl
  have hs := split_intercalate_trim hb hc (by rwa [hm])
  rwa [hm] at hs

/-! ## One field among others -/

/-- Whether a field begins behind a text: the text is empty, or ends with a comma that
separates. -/
def BeginsBehind (t : Chars) : Prop :=
  t = [] ∨ ∃ r, t = r ++ [','] ∧ (Scan.run {} r).separates ',' = true

/-- Whether a closed field ends before a text: the text is empty, or begins with a comma. -/
def EndsBefore (t : Chars) : Prop := t = [] ∨ ∃ r, t = ',' :: r

theorem dropEmptyLast_append_cons (ts us : List Chars) (h : a ≠ []) :
    dropEmptyLast (ts ++ a :: us) = ts ++ a :: dropEmptyLast us := by
  rcases us.eq_nil_or_concat' with rfl | ⟨us, u, rfl⟩
  · simp [dropEmptyLast, h]
  · have hl : ts ++ a :: (us ++ [u]) = (ts ++ a :: us) ++ [u] := by simp
    rw [dropEmptyLast, dropEmptyLast, hl, List.getLast?_concat, List.getLast?_concat]
    split
    · rw [List.dropLast_concat, List.dropLast_concat]
    · rw [← hl]

/-- **What stands before and behind a closed field does not depend on it:** the fields are
those before it, itself, trimmed, and those behind it. -/
theorem exists_split_eq (ha : BeginsBehind a) (hb : EndsBefore b) :
    ∃ ts us, ∀ f, Closed f → Chars.trim f ≠ [] → split (a ++ f ++ b) = ts ++ Chars.trim f :: us := by
  have hbehind : ∃ ps, ∀ f, Closed f → pieces {} (f ++ b) = f :: ps := by
    rcases hb with rfl | ⟨r, rfl⟩
    · exact ⟨[], fun f hf => by rw [List.append_nil, pieces_of_unbroken hf.unbroken]⟩
    · exact ⟨pieces {} r, fun f hf => pieces_append_comma hf⟩
  have hbefore : ∃ qs, ∀ t, pieces {} (a ++ t) = qs ++ pieces {} t := by
    rcases ha with rfl | ⟨r, rfl, hr⟩
    · exact ⟨[], fun t => rfl⟩
    · refine ⟨pieces {} r, fun t => ?_⟩
      rw [List.append_assoc, List.singleton_append, pieces_append_of_separates hr]
  obtain ⟨ps, hps⟩ := hbehind
  obtain ⟨qs, hqs⟩ := hbefore
  refine ⟨qs.map Chars.trim, dropEmptyLast (ps.map Chars.trim), fun f hf hne => ?_⟩
  rw [split, List.append_assoc, hqs, hps f hf, List.map_append, List.map_cons,
    dropEmptyLast_append_cons _ _ hne]

end Field
end DraftScript
