/-
# The grammar of numerals

A numeral is a sign, a mantissa and an exponent, and each of the three is a relation
between a text and what it stands for:

| part | text | stands for |
| --- | --- | --- |
| `IsSign` | nothing, `+` or `-` | whether it is minus |
| `IsMantissa` | `digits`, `digits . [digits]` or `. digits` | the digits on either side of the point |
| `IsExponent` | nothing, or `e` or `E`, a sign and digits | a power of ten |

The parts are read from left to right, each as far as it goes, and no text has two
readings: a mantissa begins with no sign and ends before the letter of the exponent.  So
the numeral that is read is the one that the text is written as by the grammar
(`Numeral.read?_eq_some_iff`, `WholeNumeral.read?_eq_some_iff`).
-/

import DraftScript.Number.Numeral
import DraftScript.Proofs.Number.Rounding
import Mathlib.Data.List.Forall2

namespace DraftScript

namespace Chars

variable {d r t : Chars} {vs : List ℕ}

/-- A row of decimal digits and their values. -/
def IsDigits (d : Chars) (vs : List ℕ) : Prop := List.Forall₂ (fun c v => digitValue c = some v) d vs

namespace IsDigits

theorem nil_iff (h : IsDigits d vs) : d = [] ↔ vs = [] := by
  rw [← List.length_eq_zero_iff, List.Forall₂.length_eq h, List.length_eq_zero_iff]

/-- Digits are read up to where they end. -/
theorem readDigits_append (h : IsDigits d vs) (hr : ∀ c ∈ r.head?, digitValue c = none) :
    readDigits (d ++ r) = (vs, r) := by
  induction h with
  | nil =>
    cases r with
    | nil => rfl
    | cons c r => rw [List.nil_append, readDigits, hr c rfl]
  | cons hc _ ih => simp only [List.cons_append, readDigits, hc, ih]

theorem readDigits_eq (h : IsDigits d vs) : readDigits d = (vs, []) := by
  have := h.readDigits_append (r := []) (by simp)
  rwa [List.append_nil] at this

/-- The first of some digits. -/
theorem exists_eq_cons (h : IsDigits d vs) (hd : d ≠ []) :
    ∃ c r, d = c :: r ∧ ∃ v, digitValue c = some v := by
  cases h with
  | nil => exact absurd rfl hd
  | cons hc _ => exact ⟨_, _, rfl, _, hc⟩

end IsDigits

/-- What is read is a row of digits. -/
theorem isDigits_readDigits (t : Chars) :
    ∃ d, t = d ++ (readDigits t).2 ∧ IsDigits d (readDigits t).1 := by
  induction t with
  | nil => exact ⟨[], rfl, .nil⟩
  | cons c t ih =>
    cases hc : digitValue c with
    | none => exact ⟨[], by simp [readDigits, hc], by simp [readDigits, hc, IsDigits]⟩
    | some v =>
      obtain ⟨d, ht, hd⟩ := ih
      simp only [readDigits, hc]
      exact ⟨c :: d, by rw [List.cons_append, ← ht], .cons hc hd⟩

end Chars

namespace Numeral

open Chars

variable {s d m r x t : Chars} {b : Bool} {w f : List ℕ} {e : ℤ} {n : Numeral} {y : Binary64}

/-! ## The sign -/

/-- A sign, and whether it is minus. -/
inductive IsSign : Chars → Bool → Prop
  | absent : IsSign [] false
  | plus : IsSign ['+'] false
  | minus : IsSign ['-'] true

theorem IsSign.readSign_append (h : IsSign s b) (hr : ∀ c ∈ r.head?, c ≠ '+' ∧ c ≠ '-') :
    readSign (s ++ r) = (b, r) := by
  cases h with
  | plus | minus => rfl
  | absent =>
    rw [List.nil_append]
    unfold readSign
    split
    · exact absurd rfl (hr _ rfl).1
    · exact absurd rfl (hr _ rfl).2
    · rfl

theorem isSign_readSign (t : Chars) :
    ∃ s, t = s ++ (readSign t).2 ∧ IsSign s (readSign t).1 := by
  unfold readSign
  split
  · exact ⟨['+'], rfl, .plus⟩
  · exact ⟨['-'], rfl, .minus⟩
  · exact ⟨[], rfl, .absent⟩

/-- A digit is no sign. -/
theorem ne_sign_of_digitValue {c : Char} {v : ℕ} (h : digitValue c = some v) :
    c ≠ '+' ∧ c ≠ '-' := by
  have hp : digitValue '+' = none := by decide +kernel
  have hm : digitValue '-' = none := by decide +kernel
  constructor
  · rintro rfl
    exact Option.some_ne_none v (h.symm.trans hp)
  · rintro rfl
    exact Option.some_ne_none v (h.symm.trans hm)

/-! ## The mantissa -/

/-- A mantissa, with the digits before and after its point. -/
inductive IsMantissa : Chars → List ℕ → List ℕ → Prop
  | whole {d : Chars} {w : List ℕ} (hd : IsDigits d w) (h : d ≠ []) : IsMantissa d w []
  | point {d r : Chars} {w f : List ℕ} (hd : IsDigits d w) (h : d ≠ []) (hr : IsDigits r f) :
      IsMantissa (d ++ '.' :: r) w f
  | fraction {r : Chars} {f : List ℕ} (hr : IsDigits r f) (h : r ≠ []) :
      IsMantissa ('.' :: r) [] f

/-- A mantissa begins with a digit or a point. -/
theorem IsMantissa.exists_eq_cons (h : IsMantissa m w f) :
    ∃ c r, m = c :: r ∧ (c = '.' ∨ ∃ v, digitValue c = some v) := by
  cases h with
  | whole hd h =>
    obtain ⟨c, r, rfl, hc⟩ := hd.exists_eq_cons h
    exact ⟨c, r, rfl, .inr hc⟩
  | point hd h =>
    obtain ⟨c, r, rfl, hc⟩ := hd.exists_eq_cons h
    exact ⟨c, _, rfl, .inr hc⟩
  | fraction => exact ⟨'.', _, rfl, .inl rfl⟩

theorem digitValue_point : digitValue '.' = none := by decide +kernel

theorem IsMantissa.readMantissa_append (h : IsMantissa m w f)
    (hr : ∀ c ∈ r.head?, digitValue c = none ∧ c ≠ '.') :
    readMantissa (m ++ r) = some ((w, f), r) := by
  have hp : ∀ t, ∀ c ∈ ('.' :: t : Chars).head?, digitValue c = none := fun t c hc =>
    Option.some.inj hc ▸ digitValue_point
  have hr' : ∀ c ∈ r.head?, digitValue c = none := fun c hc => (hr c hc).1
  cases h with
  | whole hd h =>
    obtain ⟨v, w, rfl⟩ := List.exists_cons_of_ne_nil (mt hd.nil_iff.2 h)
    rw [readMantissa, hd.readDigits_append hr']
    cases r with
    | nil => rfl
    | cons c r => simp [(hr c rfl).2]
  | point hd h hf =>
    obtain ⟨v, w, rfl⟩ := List.exists_cons_of_ne_nil (mt hd.nil_iff.2 h)
    rw [List.append_assoc, List.cons_append, readMantissa, hd.readDigits_append (hp _)]
    simp only [hf.readDigits_append hr']
  | @fraction u _ hf h =>
    obtain ⟨v, f, rfl⟩ := List.exists_cons_of_ne_nil (mt hf.nil_iff.2 h)
    have h₀ := IsDigits.readDigits_append .nil (hp (u ++ r))
    rw [List.nil_append] at h₀
    rw [List.cons_append, readMantissa, h₀]
    simp only [hf.readDigits_append hr']

theorem isMantissa_of_readMantissa (h : readMantissa t = some ((w, f), r)) :
    ∃ m, t = m ++ r ∧ IsMantissa m w f := by
  obtain ⟨d, ht, hd⟩ := isDigits_readDigits t
  unfold readMantissa at h
  -- In the order of the reader: a fraction alone, nothing, a point after digits, digits alone.
  generalize readDigits t = p at h ht hd
  split at h
  · next u =>
    obtain rfl : d = [] := hd.nil_iff.2 rfl
    obtain ⟨d', hu, hd'⟩ := isDigits_readDigits u
    generalize readDigits u = q at h hu hd'
    split at h
    · cases h
    · next ws v hne =>
      cases h
      exact ⟨'.' :: d', by rw [ht, hu]; rfl, .fraction hd' fun h₀ => hne (hd'.nil_iff.1 h₀)⟩
  · cases h
  · next w u hne =>
    cases h
    obtain ⟨d', hu, hd'⟩ := isDigits_readDigits u
    refine ⟨d ++ '.' :: d', ?_, .point hd (fun h₀ => hne (hd.nil_iff.1 h₀)) hd'⟩
    rw [List.append_assoc, List.cons_append, ← hu, ht]
  · next hne _ =>
    cases h
    exact ⟨d, ht, .whole hd fun h₀ => hne (hd.nil_iff.1 h₀)⟩

/-! ## The exponent -/

/-- An exponent, and the power of ten that it stands for. -/
inductive IsExponent : Chars → ℤ → Prop
  | absent : IsExponent [] 0
  | present {c : Char} {s d : Chars} {b : Bool} {vs : List ℕ} (hc : c = 'e' ∨ c = 'E')
      (hs : IsSign s b) (hd : IsDigits d vs) (h : d ≠ []) :
      IsExponent (c :: (s ++ d)) (if b then -(ofDigits vs : ℤ) else ofDigits vs)

/-- An exponent begins with its letter. -/
theorem IsExponent.head (h : IsExponent x e) : ∀ c ∈ x.head?, digitValue c = none ∧ c ≠ '.' := by
  cases h with
  | absent => simp
  | present hc =>
    intro c hm
    obtain rfl := Option.some.inj hm
    rcases hc with rfl | rfl
    · decide +kernel
    · decide +kernel

/-- A sign before digits is read as it stands. -/
theorem IsSign.readSign_digits {vs : List ℕ} (h : IsSign s b) (hd : IsDigits d vs) :
    readSign (s ++ d) = (b, d) := by
  refine h.readSign_append fun c hc => ?_
  cases hd with
  | nil => cases hc
  | cons hv _ => exact Option.some.inj hc ▸ ne_sign_of_digitValue hv

/-- **The exponent that is read** is the one that the text stands for. -/
theorem readExponent_eq_some_iff : readExponent x = some e ↔ IsExponent x e := by
  constructor
  · intro h
    unfold readExponent at h
    split at h
    · cases h
      exact .absent
    · next c r =>
      obtain ⟨s, hr, hs⟩ := isSign_readSign r
      obtain ⟨d, hd', hd⟩ := isDigits_readDigits (readSign r).2
      split at h
      · next hc =>
        generalize readSign r = p at h hr hs hd' hd
        dsimp only at h
        generalize readDigits p.2 = q at h hd' hd
        split at h
        · cases h
        · next vs hne =>
          cases h
          rw [hr, hd', List.append_nil]
          exact .present hc hs hd fun h₀ => hne (hd.nil_iff.1 h₀)
        · cases h
      · cases h
  · intro h
    cases h with
    | absent => rfl
    | present hc hs hd h =>
      obtain ⟨v, vs, rfl⟩ := List.exists_cons_of_ne_nil (mt hd.nil_iff.2 h)
      simp only [readExponent, if_pos hc, hs.readSign_digits hd, hd.readDigits_eq]

/-! ## The whole numeral -/

/-- The numeral that a text is written as: a sign, a mantissa and an exponent. -/
def Writes (t : Chars) (n : Numeral) : Prop :=
  ∃ s m x, t = s ++ (m ++ x) ∧ IsSign s n.negative ∧ IsMantissa m n.whole n.fraction ∧
    IsExponent x n.exponent

/-- **The numeral that is read** is the one that the text is written as. -/
theorem read?_eq_some_iff : read? t = some n ↔ Writes t n := by
  constructor
  · intro h
    unfold read? at h
    dsimp only at h
    obtain ⟨s, ht, hs⟩ := isSign_readSign t
    generalize readSign t = p at h ht hs
    split at h
    · cases h
    · next w f r hm =>
      obtain ⟨e, he, rfl⟩ := Option.map_eq_some_iff.1 h
      obtain ⟨m, hr, hm⟩ := isMantissa_of_readMantissa hm
      exact ⟨s, m, r, by rw [← hr, ← ht], hs, hm, readExponent_eq_some_iff.1 he⟩
  · obtain ⟨b, w, f, e⟩ := n
    rintro ⟨s, m, x, rfl, hs, hm, hx⟩
    -- Where there is no sign, none may be read from the mantissa.
    have hr : ∀ c ∈ (m ++ x).head?, c ≠ '+' ∧ c ≠ '-' := by
      obtain ⟨c, r, rfl, hc⟩ := hm.exists_eq_cons
      rintro _ ⟨⟩
      rcases hc with rfl | ⟨v, hv⟩
      · decide
      · exact ne_sign_of_digitValue hv
    simp only [read?, hs.readSign_append hr, hm.readMantissa_append hx.head,
      readExponent_eq_some_iff.2 hx, Option.map_some]

/-- The rational number that a numeral denotes. -/
def toRat (n : Numeral) : ℚ := if n.negative then -n.magnitude else n.magnitude

/-- A numeral begins with a sign, a point or a digit. -/
theorem Writes.exists_eq_cons (h : Writes t n) :
    ∃ c r, t = c :: r ∧ (c = '+' ∨ c = '-' ∨ c = '.' ∨ ∃ v, digitValue c = some v) := by
  obtain ⟨s, m, x, rfl, hs, hm, -⟩ := h
  obtain ⟨c, r, rfl, hc⟩ := hm.exists_eq_cons
  generalize n.negative = b at hs
  cases hs with
  | absent => exact ⟨c, _, rfl, .inr (.inr hc)⟩
  | plus => exact ⟨'+', _, rfl, .inl rfl⟩
  | minus => exact ⟨'-', _, rfl, .inr (.inl rfl)⟩

/-! ## What is read from a numeral -/

theorem number?_eq_some_iff : number? t = some y ↔ ∃ n, Writes t n ∧ n.toBinary64 = y := by
  simp only [number?, Option.map_eq_some_iff, read?_eq_some_iff]

theorem number?_eq_none_iff : number? t = none ↔ ∀ n, ¬Writes t n := by
  rw [number?, Option.map_eq_none_iff, Option.eq_none_iff_forall_ne_some]
  simp only [ne_eq, read?_eq_some_iff]

theorem isNumeral_iff : isNumeral t = true ↔ ∃ n, Writes t n := by
  simp only [isNumeral, Option.isSome_iff_exists, read?_eq_some_iff]

/-- **A numeral is read as the number nearest to what it denotes.** -/
theorem toBinary64_eq_round (n : Numeral) :
    n.toBinary64 = Binary64.round n.negative n.magnitude :=
  Binary64.ofDecimal_eq_round _ _ _

/-- Numerals of one sign that denote one number are read alike. -/
theorem toBinary64_congr {n m : Numeral} (hs : n.negative = m.negative) (hq : n.toRat = m.toRat) :
    n.toBinary64 = m.toBinary64 := by
  have hm : n.magnitude = m.magnitude := by
    unfold toRat at hq
    rw [hs] at hq
    split at hq
    · exact neg_injective hq
    · exact hq
  rw [toBinary64_eq_round, toBinary64_eq_round, hs, hm]

end Numeral

namespace WholeNumeral

open Chars Numeral

variable {t : Chars} {n : WholeNumeral}

/-- The whole numeral that a text is written as: a sign and digits. -/
def Writes (t : Chars) (n : WholeNumeral) : Prop :=
  ∃ s d, t = s ++ d ∧ IsSign s n.negative ∧ IsDigits d n.digits ∧ d ≠ []

/-- **The whole numeral that is read** is the one that the text is written as. -/
theorem read?_eq_some_iff : read? t = some n ↔ Writes t n := by
  constructor
  · intro h
    unfold read? at h
    dsimp only at h
    obtain ⟨s, ht, hs⟩ := isSign_readSign t
    generalize readSign t = p at h ht hs
    obtain ⟨d, hp, hd⟩ := isDigits_readDigits p.2
    generalize readDigits p.2 = q at h hp hd
    split at h
    · cases h
    · next vs hne =>
      cases h
      exact ⟨s, d, by rw [ht, hp, List.append_nil], hs, hd, fun h₀ => hne (hd.nil_iff.1 h₀)⟩
    · cases h
  · rintro ⟨s, d, rfl, hs, hd, h⟩
    obtain ⟨b, vs⟩ := n
    obtain ⟨v, vs, rfl⟩ := List.exists_cons_of_ne_nil (mt hd.nil_iff.2 h)
    simp only [read?, hs.readSign_digits hd, hd.readDigits_eq]

theorem read?_eq_none_iff : read? t = none ↔ ∀ n, ¬Writes t n := by
  simp only [Option.eq_none_iff_forall_ne_some, ne_eq, read?_eq_some_iff]

end WholeNumeral
end DraftScript
