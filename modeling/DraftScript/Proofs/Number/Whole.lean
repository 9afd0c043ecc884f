/-
# Whole numbers

The whole part of a finite number is a binary64 number itself: with an exponent of zero or
more it is the number, and with less than that it is smaller than `2^53`.  So cutting a
number off rounds nothing (`toRat?_of_trunc`), gives a whole number whatever the number, and
leaves whole numbers as they are but for the sign of a zero (`IsWhole.trunc_eq`).

In writing a whole number is a minus sign or none, and digits, if it is below `10^16`
(`compact_of_lt`); from there on it has an exponent (`exponent_mem_compact`).
-/

import DraftScript.Proofs.Number.Leading

namespace DraftScript
namespace Binary64

variable {x y : Binary64} {n : ℤ} {m k : ℕ} {e : ℤ}

/-- Whether a number is finite and without fraction. -/
def IsWhole (x : Binary64) : Prop := ∃ n : ℤ, x.toRat? = some (n : ℚ)

theorem magnitude_nonneg (m : ℕ) (e : ℤ) : 0 ≤ magnitude m e :=
  mul_nonneg m.cast_nonneg (two_zpow_pos e).le

/-- The part behind the point is not there if the division by the power of two goes out. -/
theorem magnitude_eq_natCast_iff :
    magnitude m e = k ↔ m * 2 ^ e.toNat % 2 ^ (-e).toNat = 0 ∧ floorPart m e = k := by
  constructor
  · intro h
    have hp : (0 : ℚ) < 2 ^ (-e).toNat := by positivity
    have hm : m * 2 ^ e.toNat = k * 2 ^ (-e).toNat := by
      rw [magnitude, two_zpow_eq_div, ← mul_div_assoc, div_eq_iff hp.ne'] at h
      exact_mod_cast h
    rw [floorPart, hm]
    exact ⟨Nat.mul_mod_left .., Nat.mul_div_left _ (by positivity)⟩
  · rintro ⟨h, rfl⟩
    exact magnitude_eq_floorPart h

/-- A magnitude with a sign is a whole number if the magnitude is, and the sign is its own. -/
theorem signed_eq_intCast_iff {q : ℚ} (hq : 0 ≤ q) (s : Bool) (n : ℤ) :
    (if s then -q else q) = n ↔
      q = n.natAbs ∧ (if s then -(n.natAbs : ℤ) else n.natAbs) = n := by
  cases s with
  | false =>
    simp only [Bool.false_eq_true, if_false]
    constructor
    · rintro rfl
      have hn : (n.natAbs : ℤ) = n := Int.natAbs_of_nonneg (by exact_mod_cast hq)
      exact ⟨by rw [← Int.cast_natCast, hn], hn⟩
    · rintro ⟨rfl, hn⟩
      rw [← Int.cast_natCast, hn]
  | true =>
    simp only [if_true]
    constructor
    · intro h
      obtain rfl : q = ((-n : ℤ) : ℚ) := by rw [Int.cast_neg, ← h, neg_neg]
      have hn : (n.natAbs : ℤ) = -n := by
        rw [← Int.natAbs_neg, Int.natAbs_of_nonneg (by exact_mod_cast hq)]
      exact ⟨by rw [← Int.cast_natCast, hn], by rw [hn, neg_neg]⟩
    · rintro ⟨rfl, hn⟩
      rw [← Int.cast_natCast, ← Int.cast_neg, hn]

/-- `toInt?` is the whole number that a number denotes. -/
theorem toInt?_eq_some_iff : x.toInt? = some n ↔ x.toRat? = some (n : ℚ) := by
  cases x with
  | nan | infinity => simp [toInt?, toRat?]
  | finite s m e h =>
    rw [toRat?, Option.some.injEq, signed_eq_intCast_iff (magnitude_nonneg m e),
      magnitude_eq_natCast_iff, toInt?, Option.ite_none_right_eq_some, wholePart?,
      Option.some.injEq, and_assoc]
    refine and_congr_right fun _ => ?_
    constructor
    · rintro rfl
      cases s <;> simp
    · rintro ⟨hf, hn⟩
      rw [hf, hn]

theorem isWhole_iff : x.IsWhole ↔ x.toInt?.isSome = true := by
  simp only [IsWhole, ← toInt?_eq_some_iff, Option.isSome_iff_exists]

instance (x : Binary64) : Decidable x.IsWhole := decidable_of_iff _ isWhole_iff.symm

/-! ## Whole numbers that are representable -/

/-- Rounding sees the magnitude only. -/
theorem round_neg (s : Bool) (q : ℚ) : round s (-q) = round s q := by
  simp [round, exponentOf, units]

/-- A whole number of a representable magnitude is itself representable. -/
theorem toRat?_ofInt (h : Canonical m e) (hn : magnitude m e = n.natAbs) :
    (ofInt n).toRat? = some (n : ℚ) := by
  have hq : round (decide ((n : ℚ) < 0)) n = round (decide ((n : ℚ) < 0)) (magnitude m e) := by
    rw [hn]
    rcases Int.natAbs_eq n with he | he
    · rw [he]; simp
    · rw [he]; simp [round_neg]
  rw [ofInt, ofRat, hq]
  by_cases hm : m = 0
  · have hn₀ : n = 0 := by simpa [hm, magnitude, eq_comm] using hn
    simp [hm, hn₀, magnitude, round, zero, toRat?]
  · rw [round_magnitude h hm, toRat?, Option.some.injEq,
      signed_eq_intCast_iff (magnitude_nonneg m e)]
    refine ⟨hn, ?_⟩
    simp only [decide_eq_true_eq, Int.cast_lt_zero]
    split <;> omega

/-- Whole numbers of 53 bits are representable. -/
theorem exists_magnitude_eq (hk : k < 2 ^ 53) : ∃ m e, Canonical m e ∧ magnitude m e = k := by
  by_cases h₀ : k = 0
  · exact ⟨0, -1074, by decide, by simp [h₀, magnitude]⟩
  have hl : k.log2 < 53 := (Nat.log2_lt h₀).2 hk
  obtain ⟨j, hj⟩ := Nat.exists_eq_add_of_le (Nat.le_of_lt_succ hl)
  have hlow : 2 ^ k.log2 * 2 ^ j = 2 ^ 52 := by rw [← pow_add, ← hj]
  have hhigh : 2 ^ (k.log2 + 1) * 2 ^ j = 2 ^ 53 := by rw [pow_succ, mul_right_comm, hlow]; rfl
  refine ⟨k * 2 ^ j, -j, ⟨?_, by omega, by omega, .inl ?_⟩, ?_⟩
  · rw [← hhigh]
    exact Nat.mul_lt_mul_of_pos_right Nat.lt_log2_self (by positivity)
  · rw [← hlow]
    exact Nat.mul_le_mul_right _ (Nat.log2_self_le h₀)
  · rw [magnitude, zpow_neg, zpow_natCast]
    push_cast
    field_simp

theorem exists_magnitude_eq_floorPart (h : Canonical m e) :
    ∃ m' e', Canonical m' e' ∧ magnitude m' e' = floorPart m e := by
  rcases le_or_gt 0 e with he | he
  · refine ⟨m, e, h, magnitude_eq_floorPart ?_⟩
    rw [Int.toNat_eq_zero.2 (by omega : -e ≤ 0), pow_zero, Nat.mod_one]
  · refine exists_magnitude_eq (lt_of_le_of_lt ?_ h.1)
    rw [floorPart, Int.toNat_eq_zero.2 he.le, pow_zero, mul_one]
    exact Nat.div_le_self ..

/-- **Cutting a number off rounds nothing.** -/
theorem toRat?_of_trunc (h : x.trunc = some y) :
    ∃ n : ℤ, x.wholePart? = some n ∧ y.toRat? = some (n : ℚ) := by
  obtain ⟨n, hn, rfl⟩ := Option.map_eq_some_iff.1 h
  refine ⟨n, hn, ?_⟩
  cases x with
  | nan | infinity => cases hn
  | finite s m e hc =>
    obtain ⟨m', e', hc', hm'⟩ := exists_magnitude_eq_floorPart hc
    refine toRat?_ofInt hc' (hm'.trans ?_)
    rw [← Option.some.inj hn]
    cases s <;> simp

theorem isWhole_of_trunc (h : x.trunc = some y) : y.IsWhole := by
  obtain ⟨n, -, hn⟩ := toRat?_of_trunc h
  exact ⟨n, hn⟩

/-- What a number denotes is rounded to that number, but for the sign of a zero. -/
theorem ofRat_of_toRat? {q : ℚ} (h : x.toRat? = some q) : ofRat q = x.unsignZero := by
  cases x with
  | nan | infinity => cases h
  | finite s m e hc =>
    obtain rfl := Option.some.inj h
    by_cases hm : m = 0
    · simp [hm, magnitude, ofRat, round, unsignZero, isZero]
    · have hpos := magnitude_pos e hm
      rw [unsignZero_of_ne_zero hm, ← round_magnitude hc hm, ofRat]
      cases s with
      | false => simp [hpos.not_gt]
      | true => simp [hpos, round_neg]

/-- **Cutting off leaves a whole number as it is,** but for the sign of a zero. -/
theorem IsWhole.trunc_eq (h : x.IsWhole) : x.trunc = some x.unsignZero := by
  obtain ⟨n, hn⟩ := h
  have hw : x.wholePart? = some n := by
    have hi := toInt?_eq_some_iff.2 hn
    cases x with
    | nan | infinity => cases hn
    | finite s m e hc => exact (Option.ite_none_right_eq_some.1 hi).2
  rw [trunc, hw, Option.map_some, ofInt, ofRat_of_toRat? hn]

end Binary64

/-! ## Whole numbers in writing -/

/-- Whether a text is a minus sign or none, and decimal digits. -/
def IsIntegerNumeral (t : Chars) : Prop :=
  ∃ ds, ds ≠ [] ∧ (∀ c ∈ ds, c.isDigit = true) ∧ (t = ds ∨ t = '-' :: ds)

theorem isIntegerNumeral_ofInt (n : ℤ) : IsIntegerNumeral (Chars.ofInt n) := by
  refine ⟨Chars.ofNat n.natAbs, Chars.ofNat_ne_nil _, fun c hc => Chars.isDigit_of_mem_ofNat hc, ?_⟩
  unfold Chars.ofInt
  split
  · exact .inr rfl
  · exact .inl rfl

theorem IsIntegerNumeral.not_mem {t : Chars} {c : Char} (h : IsIntegerNumeral t)
    (hc : c.isDigit = false) (hm : c ≠ '-') : c ∉ t := by
  obtain ⟨ds, -, hds, ht⟩ := h
  have hd : c ∉ ds := fun hi => by
    rw [hds c hi] at hc
    cases hc
  rcases ht with rfl | rfl
  · exact hd
  · exact List.not_mem_cons_of_ne_of_not_mem hm hd

namespace Binary64

variable {x : Binary64} {n : ℤ}

/-- A whole number below `10^16` is written as one. -/
theorem compact_of_lt (h : x.toRat? = some (n : ℚ)) (hn : n.natAbs < 10 ^ 16) :
    x.compact = Chars.ofInt n := by
  rw [compact, toInt?_eq_some_iff.2 h]
  exact if_pos hn

/-- From there on it is written with an exponent. -/
theorem exponent_mem_compact (h : x.toRat? = some (n : ℚ)) (hn : 10 ^ 16 ≤ n.natAbs) :
    'e' ∈ x.compact := by
  cases x with
  | nan | infinity => cases h
  | finite s m e hc =>
    have hmag := ((signed_eq_intCast_iff (magnitude_nonneg m e) s n).1 (Option.some.inj h)).1
    have hle : (10 : ℚ) ^ 16 ≤ magnitude m e := by
      rw [hmag]
      exact_mod_cast hn
    have hm : m ≠ 0 := by
      rintro rfl
      norm_num [magnitude] at hle
    have hfloor := (magnitude_eq_natCast_iff.1 hmag).2
    rw [compact_eq_describe fun hw => absurd hw.2 (by omega), describe_of_ne_zero hm]
    exact List.mem_append_right _ (Decimal.exponent_mem_text hle)

/-- **A whole number is written as an integer numeral below `10^16` only.** -/
theorem isIntegerNumeral_compact_iff (h : x.toRat? = some (n : ℚ)) :
    IsIntegerNumeral x.compact ↔ n.natAbs < 10 ^ 16 := by
  constructor
  · intro hc
    by_contra hn
    exact hc.not_mem (c := 'e') rfl (by decide) (exponent_mem_compact h (not_lt.1 hn))
  · intro hn
    rw [compact_of_lt h hn]
    exact isIntegerNumeral_ofInt n

end Binary64
end DraftScript
