/-
# What is written reads back

The text of a finite number is a numeral of a decimal that reads as the number
(`Decimal.toBinary64_shortest`), laid out in one of two ways, and a compact text may
also be a whole number.  Either way the text denotes a rational number that rounds to the
number, so reading it gives the number again; only the sign of a zero is lost, which
the compact text does not show (`number?_compact`).
-/

import DraftScript.Proofs.Chars.Trim
import DraftScript.Proofs.Number.Numeral
import Mathlib.Data.Nat.Cast.Field

namespace DraftScript

/-! ## The decimal that is written -/

namespace Decimal

variable {m : ℕ} {e : ℤ} {d : Decimal}

theorem toBinary64_eq_round (s : Bool) (d : Decimal) :
    d.toBinary64 s = Binary64.round s d.toRat :=
  Binary64.ofDecimal_eq_round s d.digits d.exponent

theorem toRat_exact (m : ℕ) (e : ℤ) : (exact m e).toRat = Binary64.magnitude m e := by
  unfold exact toRat Binary64.magnitude
  split
  · next h =>
    obtain ⟨n, rfl⟩ := Int.eq_ofNat_of_zero_le h
    simp
  · next h =>
    obtain ⟨n, hn⟩ := Int.eq_ofNat_of_zero_le (show 0 ≤ -e by omega)
    obtain rfl : e = -n := by omega
    have h₁₀ : (10 : ℚ) ^ n = 2 ^ n * 5 ^ n := by rw [← mul_pow]; norm_num
    simp only [neg_neg, Int.toNat_natCast, Nat.cast_mul, Nat.cast_pow, Nat.cast_ofNat, zpow_neg,
      zpow_natCast, h₁₀]
    field_simp

theorem readsAs_of_onGrid {g : ℤ} (h : onGrid m e g = some d) : readsAs m e d = true := by
  unfold onGrid at h
  dsimp only at h
  split at h
  · next hb ha =>
    rw [← Option.some.inj h]
    split
    · exact hb
    · split
      · exact ha
      · split <;> assumption
  · next hb _ => rwa [← Option.some.inj h]
  · next _ ha => rwa [← Option.some.inj h]
  · simp at h

/-- **The decimal that is written reads as the number.** -/
theorem toBinary64_shortest (h : Binary64.Canonical m e) (hm : m ≠ 0) (s : Bool) :
    (shortest m e).toBinary64 s = .finite s m e h := by
  rw [toBinary64_eq_round]
  unfold shortest
  dsimp only
  cases hf : (List.range 17).findSome? fun (i : ℕ) =>
      onGrid m e (pointPlace (Binary64.magnitude m e) - i - 1) with
  | none => rw [Option.getD_none, toRat_exact, Binary64.round_magnitude h hm]
  | some d =>
    obtain ⟨i, -, hi⟩ := List.exists_of_findSome?_eq_some hf
    have hr := readsAs_of_onGrid hi
    rw [readsAs, toBinary64_eq_round] at hr
    rw [Option.getD_some]
    split at hr
    · next m' e' h' hx =>
      simp only [Bool.and_eq_true, beq_iff_eq] at hr
      obtain ⟨rfl, rfl⟩ := hr
      exact Binary64.round_eq_finite_of_round hx
    · simp at hr

theorem digits_ne_zero_of_toBinary64 {s : Bool} {h : Binary64.Canonical m e} (hm : m ≠ 0)
    (hd : d.toBinary64 s = .finite s m e h) : d.digits ≠ 0 := by
  intro h₀
  rw [toBinary64, h₀, Binary64.ofDecimal, if_pos rfl, Binary64.zero] at hd
  exact hm (Binary64.finite.inj hd).2.1.symm

/-! ## Its layouts -/

theorem isDigit_of_mem_significant {c : Char} (h : c ∈ d.significant) : c.isDigit = true := by
  obtain ⟨r, hr, -⟩ := Chars.exists_eq_dropEndWhile_append (· = '0') (Nat.toDigits 10 d.digits)
  refine Chars.isDigit_of_mem_ofNat (n := d.digits) ?_
  rw [Chars.ofNat, hr]
  exact List.mem_append_left _ h

/-- The significant digits and the exponent of the leading one denote the decimal. -/
theorem significant_mul (d : Decimal) :
    (Nat.ofDigitChars 10 d.significant 0 : ℚ) * 10 ^ (d.leading + 1 - d.significant.length) =
      d.toRat := by
  obtain ⟨r, hr, hz⟩ :=
    Chars.exists_eq_dropEndWhile_append (· = '0') (Nat.toDigits 10 d.digits)
  have hrep : r = List.replicate r.length '0' :=
    List.eq_replicate_iff.2 ⟨rfl, fun c hc => by simpa using hz c hc⟩
  change _ = d.significant ++ r at hr
  have hv : d.digits = Nat.ofDigitChars 10 d.significant 0 * 10 ^ r.length := by
    conv_lhs => rw [← Nat.ofDigitChars_ten_toDigits (n := d.digits), hr, hrep]
    exact Chars.ofDigitChars_append_zeros _ _
  have he : d.leading + 1 - d.significant.length = r.length + d.exponent := by
    rw [leading, hr, List.length_append]
    push_cast
    ring
  rw [he, zpow_add₀ (by norm_num), zpow_natCast, toRat, hv]
  push_cast
  ring

theorem significant_ne_nil (hd : d.digits ≠ 0) : d.significant ≠ [] := by
  intro h
  have := significant_mul d
  rw [h, Nat.ofDigitChars_nil, Nat.cast_zero, zero_mul, toRat, eq_comm, mul_eq_zero] at this
  rcases this with h₀ | h₀
  · exact hd (by exact_mod_cast h₀)
  · exact absurd h₀ (by positivity)

variable {ds : Chars}

/-- A positional layout. -/
theorem denotes_positional (hds : ∀ c ∈ ds, c.isDigit = true) (hds₀ : ds ≠ []) (l : ℤ) :
    Numeral.Denotes (positional ds l)
      ((Nat.ofDigitChars 10 ds 0 : ℚ) * 10 ^ (l + 1 - ds.length)) := by
  have hz : ['0'] = List.replicate 1 '0' := rfl
  unfold positional
  split
  · next hl =>
    refine Numeral.denotes_fraction (w := ['0']) (f := List.replicate _ '0' ++ ds) (by simp)
      (by simp) (fun c hc => ?_) ?_
    · exact (List.mem_append.1 hc).elim Chars.isDigit_of_mem_zeros (hds c)
    · rw [hz, Chars.ofDigitChars_zeros_append, Chars.ofDigitChars_zeros_append,
        List.length_append, List.length_replicate]
      congr 2
      push_cast
      omega
  · dsimp only
    split
    · next hl hn =>
      refine Numeral.denotes_fraction (w := ds ++ List.replicate _ '0') (f := ['0'])
        (fun c hc => ?_) (by simp [hds₀]) (by simp) ?_
      · exact (List.mem_append.1 hc).elim (hds c) Chars.isDigit_of_mem_zeros
      · rw [List.append_assoc, hz, List.replicate_append_replicate,
          Chars.ofDigitChars_append_zeros]
        push_cast
        rw [mul_assoc, ← zpow_natCast, ← zpow_add₀ (by norm_num), List.length_singleton]
        congr 2
        omega
    · next hl hn =>
      have hne : ds.take (l + 1).toNat ≠ [] := by
        rw [Ne, List.take_eq_nil_iff, not_or]
        exact ⟨by omega, hds₀⟩
      have ht : ds.take (l + 1).toNat ++ ".".toList ++ ds.drop (l + 1).toNat =
          ds.take (l + 1).toNat ++ '.' :: ds.drop (l + 1).toNat := by simp
      rw [ht]
      refine Numeral.denotes_fraction (fun c hc => hds c (List.mem_of_mem_take hc)) hne
        (fun c hc => hds c (List.mem_of_mem_drop hc)) ?_
      rw [List.take_append_drop, List.length_drop]
      congr 2
      omega

/-- The exponent of a layout with a power of ten: its sign, and its digits after zeros up
to a width. -/
def exponentText (k : ℕ) (l : ℤ) : Chars :=
  'e' :: (if l < 0 then '-' else '+') ::
    (List.replicate (k - (Chars.ofNat l.natAbs).length) '0' ++ Chars.ofNat l.natAbs)

theorem scientific_eq (k : ℕ) (c : Char) (r : Chars) (l : ℤ) :
    scientific k (c :: r) l =
      [c] ++ ((if r = [] then [] else '.' :: r) ++ exponentText k l) := by
  cases r <;> simp [scientific, exponentText]

theorem isDigit_of_mem_exponent {k : ℕ} {l : ℤ} {c : Char}
    (h : c ∈ List.replicate k '0' ++ Chars.ofNat l.natAbs) : c.isDigit = true :=
  (List.mem_append.1 h).elim Chars.isDigit_of_mem_zeros Chars.isDigit_of_mem_ofNat

theorem isExponent_exponentText (k : ℕ) (l : ℤ) : Numeral.IsExponent (exponentText k l) l := by
  have he := Numeral.isExponent_of_isDigit
    (fun c hc => isDigit_of_mem_exponent (k := k - (Chars.ofNat l.natAbs).length) (l := l) hc)
    (by simp [Chars.ofNat_ne_nil]) (decide (l < 0))
  rw [Chars.ofDigitChars_zeros_append, Chars.ofNat, Nat.ofDigitChars_ten_toDigits] at he
  simp only [decide_eq_true_eq] at he
  rw [exponentText, Chars.ofNat]
  convert he using 1
  split <;> omega

theorem isNumeralChar_of_mem_exponentText {k : ℕ} {l : ℤ} {c : Char}
    (h : c ∈ exponentText k l) : isNumeralChar c = true := by
  simp only [exponentText, List.mem_cons] at h
  rcases h with rfl | rfl | h
  · rfl
  · split <;> rfl
  · exact isNumeralChar_of_isDigit (isDigit_of_mem_exponent h)

/-- A layout with a power of ten. -/
theorem denotes_scientific (hds : ∀ c ∈ ds, c.isDigit = true) (hds₀ : ds ≠ []) (k : ℕ) (l : ℤ) :
    Numeral.Denotes (scientific k ds l)
      ((Nat.ofDigitChars 10 ds 0 : ℚ) * 10 ^ (l + 1 - ds.length)) := by
  obtain ⟨c, r, rfl⟩ := List.exists_cons_of_ne_nil hds₀
  rw [List.forall_mem_cons] at hds
  have he := isExponent_exponentText k l
  rw [scientific_eq]
  split
  · next hr =>
    subst hr
    refine Numeral.denotes_whole (by simpa using hds.1) (by simp) he
      (fun _ hd => isNumeralChar_of_mem_exponentText hd) ?_
    simp
  · rw [List.cons_append]
    refine Numeral.denotes_point (w := [c]) (by simpa using hds.1) (by simp) hds.2 he
      (fun _ hd => isNumeralChar_of_mem_exponentText hd) ?_
    simp only [List.singleton_append, List.length_cons]
    congr 2
    push_cast
    ring

/-- **A decimal is written as a numeral of what it denotes.** -/
theorem denotes_text (hd : d.digits ≠ 0) (l : Layout) : Numeral.Denotes (d.text l) d.toRat := by
  rw [← significant_mul d]
  have hs : ∀ c ∈ d.significant, c.isDigit = true := fun c hc => isDigit_of_mem_significant hc
  unfold text
  split
  · exact denotes_positional hs (significant_ne_nil hd) _
  · exact denotes_scientific hs (significant_ne_nil hd) _ _

end Decimal

/-! ## The compact text -/

namespace Binary64

variable {m : ℕ} {e : ℤ}

theorem magnitude_eq_floorPart (h : m * 2 ^ e.toNat % 2 ^ (-e).toNat = 0) :
    magnitude m e = floorPart m e := by
  rw [magnitude, two_zpow_eq_div, floorPart, Nat.cast_div (Nat.dvd_of_mod_eq_zero h) (by positivity)]
  push_cast
  ring

theorem unsignZero_of_ne_zero {s : Bool} {h : Canonical m e} (hm : m ≠ 0) :
    (finite s m e h).unsignZero = finite s m e h := by
  simp [unsignZero, isZero, hm]

theorem describe_of_ne_zero {s : Bool} {h : Canonical m e} (hm : m ≠ 0) :
    (finite s m e h).describe =
      (if s then ['-'] else []) ++ (Decimal.shortest m e).text Layout.plain := by
  cases s <;> simp [describe, hm]

theorem compact_zero {s : Bool} {h : Canonical 0 e} :
    (finite s 0 e h).compact = Chars.ofNat 0 := by
  have hf : floorPart 0 e = 0 := by simp [floorPart]
  cases s <;> simp [compact, toInt?, wholePart?, hf, Chars.ofInt]

/-- A small whole number is written without a point. -/
theorem compact_of_whole {s : Bool} {h : Canonical m e} (hm : m ≠ 0)
    (hw : m * 2 ^ e.toNat % 2 ^ (-e).toNat = 0) (hf : floorPart m e < 10 ^ 16) :
    (finite s m e h).compact = (if s then ['-'] else []) ++ Chars.ofNat (floorPart m e) := by
  have hpos : 0 < floorPart m e := by
    exact_mod_cast magnitude_eq_floorPart hw ▸ magnitude_pos e hm
  have h₁₆ : (if s then -(floorPart m e : ℤ) else floorPart m e).natAbs < 10 ^ 16 := by
    cases s <;> simpa using hf
  simp only [compact, toInt?, if_pos hw, wholePart?, if_pos h₁₆]
  cases s <;> simp [Chars.ofInt, hpos]

/-- Any other number is written as it is described. -/
theorem compact_eq_describe {s : Bool} {h : Canonical m e}
    (hw : ¬(m * 2 ^ e.toNat % 2 ^ (-e).toNat = 0 ∧ floorPart m e < 10 ^ 16)) :
    (finite s m e h).compact = (finite s m e h).describe := by
  rw [not_and'] at hw
  by_cases hf : floorPart m e < 10 ^ 16
  · simp [compact, toInt?, hw hf]
  · rw [compact]
    split
    · next n hn =>
      simp only [toInt?, Option.ite_none_right_eq_some, wholePart?, Option.some.injEq] at hn
      rw [if_neg]
      rw [← hn.2]
      split <;> simpa using hf
    · rfl

/-- **The compact text is that of a number that rounds to `x`,** after a minus sign if `x`
is negative and no zero. -/
theorem exists_denotes_compact {x : Binary64} (hx : x.isFinite = true) :
    ∃ (s : Bool) (t : Chars) (q : ℚ), x.compact = (if s then ['-'] else []) ++ t ∧
      Numeral.Denotes t q ∧ round s q = x.unsignZero := by
  cases x with
  | nan => simp [isFinite] at hx
  | infinity s => simp [isFinite] at hx
  | finite s m e h =>
    by_cases hm : m = 0
    · subst hm
      refine ⟨false, Chars.ofNat 0, 0, compact_zero, by exact_mod_cast Numeral.denotes_ofNat 0, ?_⟩
      simp [round, unsignZero, isZero]
    rw [unsignZero_of_ne_zero hm]
    by_cases hi : m * 2 ^ e.toNat % 2 ^ (-e).toNat = 0 ∧ floorPart m e < 10 ^ 16
    · refine ⟨s, _, floorPart m e, compact_of_whole hm hi.1 hi.2, Numeral.denotes_ofNat _, ?_⟩
      rw [← magnitude_eq_floorPart hi.1, round_magnitude h hm]
    · have hd := Decimal.toBinary64_shortest h hm s
      refine ⟨s, _, (Decimal.shortest m e).toRat,
        by rw [compact_eq_describe hi, describe_of_ne_zero hm],
        Decimal.denotes_text (Decimal.digits_ne_zero_of_toBinary64 hm hd) _, ?_⟩
      rw [← Decimal.toBinary64_eq_round, hd]

/-- **A finite number reads back from its compact text,** a zero without its sign. -/
theorem number?_compact {x : Binary64} (hx : x.isFinite = true) :
    Numeral.number? x.compact = some x.unsignZero := by
  obtain ⟨s, t, q, hc, ht, hq⟩ := exists_denotes_compact hx
  rw [hc, ← hq]
  cases s
  · exact ht.number?_eq
  · exact ht.number?_neg

/-- The compact text of a finite number begins with a digit or a minus sign, and holds
only the characters of written numbers. -/
theorem compact_chars {x : Binary64} (hx : x.isFinite = true) :
    (∃ c r, x.compact = c :: r) ∧ ∀ c ∈ x.compact, isNumeralChar c = true := by
  obtain ⟨s, t, q, hc, ht, -⟩ := exists_denotes_compact hx
  obtain ⟨c, r, rfl, -⟩ := ht.head
  rw [hc]
  refine ⟨?_, fun d hd => ?_⟩
  · cases s
    · exact ⟨c, r, rfl⟩
    · exact ⟨'-', c :: r, rfl⟩
  · rcases List.mem_append.1 hd with hd | hd
    · cases s
      · simp at hd
      · obtain rfl := List.mem_singleton.1 hd
        rfl
    · exact ht.chars d hd

end Binary64
end DraftScript
