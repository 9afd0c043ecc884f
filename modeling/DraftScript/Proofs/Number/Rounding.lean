/-
# Rounding to binary64

`round` finds an exponent from the lengths of numerator and denominator, which may be
wrong by one, and corrects it by one division.  `exists_exponentOf` says what comes out:
the binade of the number, or the least exponent if that is larger.  From it follow the
three facts that reading and writing rest on: what is representable rounds to itself
(`round_magnitude`), what is far out rounds to an infinity or to zero (`round_of_le`,
`round_of_lt`), and so a decimal reads as the rounding of the rational number it
denotes, whatever its power of ten (`ofDecimal_eq_round`).
-/

import DraftScript.Number.Binary64
import Mathlib.Algebra.Order.Field.Power
import Mathlib.Data.Rat.Lemmas
import Mathlib.Tactic.FieldSimp
import Mathlib.Tactic.Linarith
import Mathlib.Tactic.Positivity
import Mathlib.Tactic.Ring

namespace DraftScript
namespace Binary64

/-! ## Powers of two -/

theorem two_zpow_pos (e : ℤ) : (0 : ℚ) < 2 ^ e := by positivity

/-- A power of two as a quotient of whole numbers. -/
theorem two_zpow_eq_div (e : ℤ) : (2 : ℚ) ^ e = 2 ^ e.toNat / 2 ^ (-e).toNat := by
  rcases Int.le_total 0 e with h | h
  · obtain ⟨n, rfl⟩ := Int.eq_ofNat_of_zero_le h
    have h₂ : (-(n : ℤ)).toNat = 0 := by omega
    simp [h₂]
  · obtain ⟨n, hn⟩ := Int.eq_ofNat_of_zero_le (show 0 ≤ -e by omega)
    obtain rfl : e = -n := by omega
    have h₂ : (-(n : ℤ)).toNat = 0 := by omega
    simp [h₂]

theorem abs_eq_natAbs_div (q : ℚ) : |q| = (q.num.natAbs : ℚ) / q.den := by
  conv_lhs => rw [← Rat.num_div_den q, abs_div, Nat.abs_cast]
  rw [Nat.cast_natAbs, Int.cast_abs]

/-! ## The exponent of a number -/

theorem units_snd_pos (q : ℚ) (e : ℤ) : 0 < (units q e).2 :=
  Nat.mul_pos q.den_pos (by positivity)

/-- `units` is the magnitude in units of `2^e`. -/
theorem units_div (q : ℚ) (e : ℤ) : ((units q e).1 : ℚ) / (units q e).2 = |q| / 2 ^ e := by
  have hd : (q.den : ℚ) ≠ 0 := by exact_mod_cast q.den_nz
  rw [abs_eq_natAbs_div, two_zpow_eq_div, units]
  push_cast
  field_simp

/-- A bound on the whole part is a bound on the number. -/
theorem units_div_lt_iff (q : ℚ) (e : ℤ) (n : ℕ) :
    (units q e).1 / (units q e).2 < n ↔ |q| < n * 2 ^ e := by
  have hu : (0 : ℚ) < (units q e).2 := by exact_mod_cast units_snd_pos q e
  rw [Nat.div_lt_iff_lt_mul (units_snd_pos q e), ← div_lt_iff₀ (two_zpow_pos e), ← units_div,
    div_lt_iff₀ hu]
  exact_mod_cast Iff.rfl

/-- The logarithms of numerator and denominator locate a number within two binades. -/
theorem log2_bounds {q : ℚ} (hq : q ≠ 0) :
    2 ^ 52 * (2 : ℚ) ^ ((q.num.natAbs.log2 : ℤ) - q.den.log2 - 53) ≤ |q| ∧
      |q| < 2 ^ 54 * (2 : ℚ) ^ ((q.num.natAbs.log2 : ℤ) - q.den.log2 - 53) := by
  have ha : q.num.natAbs ≠ 0 := by simpa using hq
  have hb : q.den ≠ 0 := q.den_nz
  set a := q.num.natAbs
  set b := q.den
  have ha₁ : (2 : ℚ) ^ a.log2 ≤ a := by exact_mod_cast Nat.log2_self_le ha
  have ha₂ : (a : ℚ) < 2 ^ (a.log2 + 1) := by exact_mod_cast Nat.lt_log2_self (n := a)
  have hb₁ : (2 : ℚ) ^ b.log2 ≤ b := by exact_mod_cast Nat.log2_self_le hb
  have hb₂ : (b : ℚ) < 2 ^ (b.log2 + 1) := by exact_mod_cast Nat.lt_log2_self (n := b)
  have hb₀ : (0 : ℚ) < b := by exact_mod_cast Nat.pos_of_ne_zero hb
  have he : (2 : ℚ) ^ ((a.log2 : ℤ) - b.log2 - 53) = 2 ^ a.log2 / 2 ^ b.log2 / 2 ^ 53 := by
    rw [zpow_sub₀ two_ne_zero, zpow_sub₀ two_ne_zero, zpow_natCast, zpow_natCast]
    rfl
  rw [he, abs_eq_natAbs_div]
  constructor
  · rw [le_div_iff₀ hb₀]
    calc (2 : ℚ) ^ 52 * (2 ^ a.log2 / 2 ^ b.log2 / 2 ^ 53) * b
        ≤ 2 ^ 52 * (2 ^ a.log2 / 2 ^ b.log2 / 2 ^ 53) * 2 ^ (b.log2 + 1) := by gcongr
      _ = 2 ^ a.log2 := by field_simp; ring
      _ ≤ a := ha₁
  · rw [div_lt_iff₀ hb₀]
    calc (a : ℚ) < 2 ^ (a.log2 + 1) := ha₂
      _ = 2 ^ 54 * (2 ^ a.log2 / 2 ^ b.log2 / 2 ^ 53) * 2 ^ b.log2 := by field_simp; ring
      _ ≤ 2 ^ 54 * (2 ^ a.log2 / 2 ^ b.log2 / 2 ^ 53) * b := by gcongr

/-- **The exponent is that of the binade, but not less than the least exponent.** -/
theorem exists_exponentOf {q : ℚ} (hq : q ≠ 0) :
    ∃ e : ℤ, exponentOf q = max (-1074) e ∧ 2 ^ 52 * (2 : ℚ) ^ e ≤ |q| ∧
      |q| < 2 ^ 53 * (2 : ℚ) ^ e := by
  obtain ⟨hl, hu⟩ := log2_bounds hq
  set e : ℤ := (q.num.natAbs.log2 : ℤ) - q.den.log2 - 53 with he
  have hx : exponentOf q =
      max (-1074) (if (units q e).1 / (units q e).2 < 2 ^ 53 then e else e + 1) := rfl
  have hlt := units_div_lt_iff q e (2 ^ 53)
  push_cast at hlt
  by_cases h : (units q e).1 / (units q e).2 < 2 ^ 53
  · exact ⟨e, by rw [hx, if_pos h], hl, hlt.1 h⟩
  · refine ⟨e + 1, by rw [hx, if_neg h], ?_, ?_⟩
    · have := not_lt.1 (mt hlt.2 h)
      rw [zpow_add_one₀ two_ne_zero]
      linarith
    · rw [zpow_add_one₀ two_ne_zero]
      linarith

/-- A number lies in one binade. -/
theorem binade_unique {x : ℚ} {e f : ℤ} (he : 2 ^ 52 * (2 : ℚ) ^ e ≤ x)
    (he' : x < 2 ^ 53 * (2 : ℚ) ^ e) (hf : 2 ^ 52 * (2 : ℚ) ^ f ≤ x)
    (hf' : x < 2 ^ 53 * (2 : ℚ) ^ f) : e = f := by
  have key : ∀ a b : ℤ, 2 ^ 52 * (2 : ℚ) ^ a < 2 ^ 53 * (2 : ℚ) ^ b → a < b + 1 := by
    intro a b h
    have h' : (2 : ℚ) ^ a < 2 ^ (b + 1) := by
      rw [zpow_add_one₀ two_ne_zero]
      linarith
    exact (zpow_lt_zpow_iff_right₀ one_lt_two).1 h'
  have h₁ := key e f (he.trans_lt hf')
  have h₂ := key f e (hf.trans_lt he')
  omega

/-! ## What rounds to itself, to an infinity, and to zero -/

section Round

variable {q : ℚ} {s : Bool}

theorem magnitude_pos {m : ℕ} (e : ℤ) (hm : m ≠ 0) : 0 < magnitude m e := by
  have : (0 : ℚ) < m := by exact_mod_cast Nat.pos_of_ne_zero hm
  exact mul_pos this (two_zpow_pos e)

theorem exponentOf_magnitude {m : ℕ} {e : ℤ} (h : Canonical m e) (hm : m ≠ 0) :
    exponentOf (magnitude m e) = e := by
  have hpos := magnitude_pos e hm
  obtain ⟨f, hf, hl, hu⟩ := exists_exponentOf hpos.ne'
  rw [abs_of_pos hpos] at hl hu
  have hm₁ : (m : ℚ) < 2 ^ 53 := by exact_mod_cast h.1
  have hu' : magnitude m e < 2 ^ 53 * (2 : ℚ) ^ e := mul_lt_mul_of_pos_right hm₁ (two_zpow_pos e)
  rcases h.2.2.2 with h₅₂ | rfl
  · have hm₂ : (2 : ℚ) ^ 52 ≤ m := by exact_mod_cast h₅₂
    have hl' : 2 ^ 52 * (2 : ℚ) ^ e ≤ magnitude m e :=
      mul_le_mul_of_nonneg_right hm₂ (two_zpow_pos e).le
    rw [hf, binade_unique hl hu hl' hu', max_eq_right h.2.1]
  · have hlt : (2 : ℚ) ^ f < 2 ^ (-1073 : ℤ) := by
      rw [show (-1073 : ℤ) = -1074 + 1 by norm_num, zpow_add_one₀ two_ne_zero]
      linarith
    have := (zpow_lt_zpow_iff_right₀ (one_lt_two (α := ℚ))).1 hlt
    rw [hf, max_eq_left (by omega)]

/-- **What is representable rounds to itself.** -/
theorem round_magnitude {m : ℕ} {e : ℤ} (h : Canonical m e) (hm : m ≠ 0) :
    round s (magnitude m e) = .finite s m e h := by
  have hpos := magnitude_pos e hm
  have hu₂ : ((units (magnitude m e) e).2 : ℚ) ≠ 0 := by
    exact_mod_cast (units_snd_pos (magnitude m e) e).ne'
  have hu : (units (magnitude m e) e).1 = m * (units (magnitude m e) e).2 := by
    have hd := units_div (magnitude m e) e
    have hm' : magnitude m e / 2 ^ e = m := mul_div_cancel_right₀ _ (two_zpow_pos e).ne'
    rw [abs_of_pos hpos, hm', div_eq_iff hu₂] at hd
    exact_mod_cast hd
  simp only [round, if_neg hpos.ne', exponentOf_magnitude h hm, hu,
    roundHalfEven_mul m (units_snd_pos _ _), if_pos h.1, ofPair, dif_pos h]

/-- What is too large rounds to an infinity. -/
theorem round_of_le (hq : (2 : ℚ) ^ (1024 : ℤ) ≤ |q|) : round s q = .infinity s := by
  have h₀ : q ≠ 0 := by
    rintro rfl
    exact absurd hq (by simp)
  obtain ⟨e, he, -, hu⟩ := exists_exponentOf h₀
  have hlt : (2 : ℚ) ^ (971 : ℤ) < 2 ^ e := by
    have : (2 : ℚ) ^ (1024 : ℤ) = 2 ^ 53 * 2 ^ (971 : ℤ) := by
      rw [show (1024 : ℤ) = (53 : ℕ) + 971 by norm_num, zpow_add₀ two_ne_zero, zpow_natCast]
    rw [this] at hq
    linarith
  have he' := (zpow_lt_zpow_iff_right₀ (one_lt_two (α := ℚ))).1 hlt
  have hx : 971 < exponentOf q := by omega
  have key : ∀ (m : ℕ) (f : ℤ), 971 < f → ofPair s m f = .infinity s := by
    intro m f hf
    exact dif_neg fun hc => absurd hc.2.2.1 (by omega)
  simp only [round, if_neg h₀]
  split
  · exact key _ _ hx
  · exact key _ _ (by omega)

/-- What is less than half the least positive number rounds to zero. -/
theorem round_of_lt (hq : |q| < (2 : ℚ) ^ (-1075 : ℤ)) : round s q = zero s := by
  by_cases h₀ : q = 0
  · rw [round, if_pos h₀]
  obtain ⟨e, he, hl, -⟩ := exists_exponentOf h₀
  have hlt : (2 : ℚ) ^ e < 2 ^ (-1075 : ℤ) := by
    have := two_zpow_pos e
    linarith
  have he' := (zpow_lt_zpow_iff_right₀ (one_lt_two (α := ℚ))).1 hlt
  have hx : exponentOf q = -1074 := by omega
  have hu₀ := units_snd_pos q (-1074)
  have hu : 2 * (units q (-1074)).1 < (units q (-1074)).2 := by
    have hd := units_div q (-1074)
    have hpos : (0 : ℚ) < (units q (-1074)).2 := by exact_mod_cast hu₀
    rw [div_eq_iff hpos.ne'] at hd
    have hq' : |q| / 2 ^ (-1074 : ℤ) < 1 / 2 := by
      rw [div_lt_iff₀ (two_zpow_pos _)]
      rw [show (-1075 : ℤ) = -1074 - 1 by norm_num, zpow_sub_one₀ two_ne_zero] at hq
      linarith
    have : 2 * ((units q (-1074)).1 : ℚ) < (units q (-1074)).2 := by
      rw [hd]
      nlinarith
    exact_mod_cast this
  have hr : roundHalfEven (units q (-1074)).1 (units q (-1074)).2 = 0 := by
    have h₁ : (units q (-1074)).1 / (units q (-1074)).2 = 0 := Nat.div_eq_of_lt (by omega)
    have h₂ : (units q (-1074)).1 % (units q (-1074)).2 = (units q (-1074)).1 :=
      Nat.mod_eq_of_lt (by omega)
    simp only [roundHalfEven, h₁, h₂, if_pos hu]
  simp only [round, if_neg h₀, hx, hr, if_pos (show 0 < 2 ^ 53 by norm_num)]
  rfl

theorem ofPair_eq_finite_iff {t : Bool} {m n : ℕ} {e f : ℤ} {h : Canonical n f} :
    ofPair s m e = .finite t n f h ↔ s = t ∧ m = n ∧ e = f := by
  unfold ofPair
  split
  · simp
  · next hc =>
    refine ⟨by simp, ?_⟩
    rintro ⟨-, rfl, rfl⟩
    exact absurd h hc

/-- The sign of a rounding does not matter to what is rounded. -/
theorem round_eq_finite_of_round {t : Bool} {m : ℕ} {e : ℤ} {h : Canonical m e}
    (hr : round s q = .finite s m e h) : round t q = .finite t m e h := by
  unfold round at hr ⊢
  split
  · next h₀ =>
    rw [if_pos h₀, zero, finite.injEq] at hr
    simp [zero, hr]
  · next h₀ =>
    rw [if_neg h₀] at hr
    dsimp only at hr ⊢
    split at hr
    · next hm =>
      rw [if_pos hm]
      exact ofPair_eq_finite_iff.2 ⟨rfl, (ofPair_eq_finite_iff.1 hr).2⟩
    · next hm =>
      rw [if_neg hm]
      exact ofPair_eq_finite_iff.2 ⟨rfl, (ofPair_eq_finite_iff.1 hr).2⟩

end Round

/-! ## Decimals -/

theorem two_zpow_le_ten_zpow {n k : ℕ} (h : n ≤ 3 * k) : (2 : ℚ) ^ (n : ℤ) ≤ 10 ^ (k : ℤ) := by
  rw [zpow_natCast, zpow_natCast]
  calc (2 : ℚ) ^ n ≤ 2 ^ (3 * k) := pow_le_pow_right₀ one_le_two h
    _ = 8 ^ k := by rw [pow_mul]; norm_num
    _ ≤ 10 ^ k := by gcongr; norm_num

/-- **A decimal reads as the rounding of what it denotes,** also where its power of ten is
not built. -/
theorem ofDecimal_eq_round (s : Bool) (d : ℕ) (k : ℤ) :
    ofDecimal s d k = round s ((d : ℚ) * (10 : ℚ) ^ k) := by
  unfold ofDecimal
  split
  · next h => simp [h, round]
  · next hd =>
    have hd₁ : (1 : ℚ) ≤ d := by exact_mod_cast Nat.pos_of_ne_zero hd
    have hpos : (0 : ℚ) < (10 : ℚ) ^ k := by positivity
    have habs : |(d : ℚ) * (10 : ℚ) ^ k| = d * (10 : ℚ) ^ k := abs_of_pos (by positivity)
    split
    · next hk =>
      refine (round_of_le ?_).symm
      rw [habs]
      calc (2 : ℚ) ^ (1024 : ℤ) ≤ (10 : ℚ) ^ (400 : ℤ) := two_zpow_le_ten_zpow (by norm_num)
        _ ≤ 1 * (10 : ℚ) ^ k := by
          rw [one_mul]
          exact zpow_le_zpow_right₀ (by norm_num) hk.le
        _ ≤ d * (10 : ℚ) ^ k := by gcongr
    · split
      · next hk =>
        refine (round_of_lt ?_).symm
        have hd₂ : (d : ℚ) < 10 ^ ((d.log2 : ℤ) + 1) := by
          have h₂ : (d : ℚ) < 2 ^ (d.log2 + 1) := by exact_mod_cast Nat.lt_log2_self (n := d)
          have h₁₀ : (2 : ℚ) ^ (d.log2 + 1) ≤ 10 ^ (d.log2 + 1) := by gcongr; norm_num
          exact_mod_cast h₂.trans_le h₁₀
        rw [habs]
        calc (d : ℚ) * (10 : ℚ) ^ k < 10 ^ ((d.log2 : ℤ) + 1) * (10 : ℚ) ^ k := by gcongr
          _ = (10 : ℚ) ^ ((d.log2 : ℤ) + 1 + k) := (zpow_add₀ (by norm_num) _ _).symm
          _ ≤ (10 : ℚ) ^ (-400 : ℤ) := zpow_le_zpow_right₀ (by norm_num) (by omega)
          _ ≤ (2 : ℚ) ^ (-1075 : ℤ) := by
            rw [zpow_neg, zpow_neg]
            exact inv_anti₀ (two_zpow_pos 1075) (two_zpow_le_ten_zpow (by norm_num))
      · rfl

end Binary64
end DraftScript
