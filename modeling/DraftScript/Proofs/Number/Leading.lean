/-
# The leading digit of what is written

`pointPlace` finds the power of ten that a number reaches (`ten_zpow_le`).  The two decimals
that are tried on a grid no coarser than that power do not fall below it, since the number
itself is a power of ten or more in units of the grid (`le_toRat_of_onGrid`).  So the shortest
decimal has its leading digit where the number has its own, or one place before it
(`le_leading_shortest`), and from `10^16` on a number is written with an exponent
(`exponent_mem_text`).
-/

import DraftScript.Proofs.Number.ReadBack

namespace DraftScript
namespace Decimal

variable {m : ℕ} {e g : ℤ} {d : Decimal} {q : ℚ}

/-- A decimal is below the place before its leading digit. -/
theorem toRat_lt (d : Decimal) : d.toRat < 10 ^ (d.leading + 1) := by
  have hd : d.digits < 10 ^ (Nat.toDigits 10 d.digits).length :=
    (Nat.length_toDigits_le_iff (by norm_num) (by simp [List.length_pos_iff])).1 le_rfl
  have hq : (d.digits : ℚ) < 10 ^ ((Nat.toDigits 10 d.digits).length : ℤ) := by exact_mod_cast hd
  calc d.toRat < 10 ^ ((Nat.toDigits 10 d.digits).length : ℤ) * 10 ^ d.exponent := by
        rw [toRat]
        gcongr
    _ = 10 ^ (d.leading + 1) := by
        rw [← zpow_add₀ (by norm_num), leading]
        congr 1
        ring

theorem le_floor_toNat_iff {k : ℕ} (hq : 0 ≤ q) : k ≤ q.floor.toNat ↔ (k : ℚ) ≤ q := by
  have h₀ : 0 ≤ q.floor := Rat.le_floor_iff.2 (by simpa using hq)
  rw [Int.le_toNat h₀, Rat.le_floor_iff]
  norm_cast

/-- A number from `10^k` on has more than `k` digits before its point. -/
theorem lt_pointPlace {k : ℕ} (hk : 0 < k) (hq : (10 : ℚ) ^ k ≤ q) : (k : ℤ) < pointPlace q := by
  have h₁ : 1 ≤ q := le_trans (one_le_pow₀ (by norm_num)) hq
  have hf : 10 ^ k ≤ q.floor.toNat :=
    (le_floor_toNat_iff (zero_le_one.trans h₁)).2 (by exact_mod_cast hq)
  rw [pointPlace, if_pos h₁]
  have := mt (Nat.length_toDigits_le_iff (b := 10) (by norm_num) hk).1 hf.not_gt
  omega

/-- It reaches the power of ten of its first digit. -/
theorem ten_zpow_le (hq : 1 ≤ q) : (10 : ℚ) ^ (pointPlace q - 1) ≤ q := by
  rw [pointPlace, if_pos hq]
  obtain ⟨k, hk⟩ : ∃ k, (Nat.toDigits 10 q.floor.toNat).length = k + 1 :=
    Nat.exists_eq_succ_of_ne_zero (by simp)
  have hp : ((k + 1 : ℕ) : ℤ) - 1 = k := by push_cast; ring
  rw [hk, hp, zpow_natCast]
  rcases Nat.eq_zero_or_pos k with rfl | hpos
  · simpa using hq
  · have hlen := mt (Nat.length_toDigits_le_iff (b := 10) (n := q.floor.toNat) (by norm_num) hpos).2
      (by omega)
    exact_mod_cast (le_floor_toNat_iff (zero_le_one.trans hq)).1 (not_lt.1 hlen)

/-- The decimals that are tried on a grid do not fall below the units that the number has
of it. -/
theorem le_digits_of_onGrid (h : onGrid m e g = some d) :
    d.exponent = g ∧ (Binary64.magnitude m e / (10 : ℚ) ^ g).floor.toNat ≤ d.digits := by
  unfold onGrid at h
  dsimp only at h
  split at h
  · rw [← Option.some.inj h]
    split_ifs <;> simp
  · rw [← Option.some.inj h]
    simp
  · rw [← Option.some.inj h]
    simp
  · cases h

theorem le_toRat_of_onGrid {p : ℤ} {i : ℕ} (hp : (10 : ℚ) ^ (p - 1) ≤ Binary64.magnitude m e)
    (h : onGrid m e (p - i - 1) = some d) : (10 : ℚ) ^ (p - 1) ≤ d.toRat := by
  obtain ⟨he, hd⟩ := le_digits_of_onGrid h
  have hpos : (0 : ℚ) < 10 ^ (p - i - 1) := by positivity
  have hsplit : (10 : ℚ) ^ (p - 1) = 10 ^ i * 10 ^ (p - i - 1) := by
    rw [← zpow_natCast, ← zpow_add₀ (by norm_num)]
    congr 1
    ring
  have hunits : ((10 ^ i : ℕ) : ℚ) ≤ Binary64.magnitude m e / 10 ^ (p - i - 1) := by
    rw [le_div_iff₀ hpos, Nat.cast_pow, Nat.cast_ofNat, ← hsplit]
    exact hp
  have hdigits : 10 ^ i ≤ d.digits :=
    ((le_floor_toNat_iff ((Nat.cast_nonneg _).trans hunits)).2 hunits).trans hd
  rw [toRat, he, hsplit]
  gcongr
  exact_mod_cast hdigits

/-- **The shortest decimal reaches the power of ten that the number reaches.** -/
theorem le_toRat_shortest (h : 1 ≤ Binary64.magnitude m e) :
    (10 : ℚ) ^ (pointPlace (Binary64.magnitude m e) - 1) ≤ (shortest m e).toRat := by
  have hp := ten_zpow_le h
  unfold shortest
  dsimp only
  cases hf : (List.range 17).findSome? fun (i : ℕ) =>
      onGrid m e (pointPlace (Binary64.magnitude m e) - i - 1) with
  | none => rwa [Option.getD_none, toRat_exact]
  | some d =>
    obtain ⟨i, -, hi⟩ := List.exists_of_findSome?_eq_some hf
    exact le_toRat_of_onGrid hp hi

/-- Its leading digit does not stand behind that of the number. -/
theorem le_leading_shortest (h : 1 ≤ Binary64.magnitude m e) :
    pointPlace (Binary64.magnitude m e) - 1 ≤ (shortest m e).leading := by
  have hlt := (le_toRat_shortest h).trans_lt (toRat_lt _)
  have := (zpow_lt_zpow_iff_right₀ (by norm_num : (1 : ℚ) < 10)).1 hlt
  omega

/-- **From `10^16` on a number is written with an exponent.** -/
theorem exponent_mem_text (h : (10 : ℚ) ^ 16 ≤ Binary64.magnitude m e) :
    'e' ∈ (shortest m e).text Layout.plain := by
  have h₁ : 1 ≤ Binary64.magnitude m e := le_trans (by norm_num) h
  have hp := lt_pointPlace (by norm_num) h
  have hl := le_leading_shortest h₁
  have hbeyond : ¬(shortest m e).leading ≤ Layout.plain.greatest := by
    change ¬(shortest m e).leading ≤ 15
    push_cast at hp
    omega
  rw [text, if_neg fun hc => hbeyond hc.2]
  simp [scientific]

end Decimal
end DraftScript
