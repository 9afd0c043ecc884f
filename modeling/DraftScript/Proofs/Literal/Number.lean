/-
# Numbers among the literals

A text is a number exactly when it is written as a numeral, and then whatever reads it
gives the same: no rule for another literal takes a numeral.  A numeral begins with a sign,
a point or a digit, and every other rule asks for another first character
(`gives_of_writes`).

The number is the rounding of the rational number that the numeral denotes, so it depends on
the sign and on what is denoted, and not on how it is written (`isNumber_agrees`).
-/

import DraftScript.Proofs.Literal.Outcome

namespace DraftScript

namespace Chars

variable {c : Char}

/-- Digits are the ASCII digits and characters far beyond ASCII. -/
theorem toNat_of_digitValue {v : ℕ} (h : digitValue c = some v) :
    0x30 ≤ c.toNat ∧ c.toNat < 0x3A ∨ 0x660 ≤ c.toNat := by
  obtain ⟨z, hz, -⟩ := Option.map_eq_some_iff.1 h
  have hzs : ∀ z ∈ digitZeros, z = 0x30 ∨ 0x660 ≤ z := by decide +kernel
  have hb := List.find?_some hz
  simp only [Bool.and_eq_true, decide_eq_true_eq] at hb
  rcases hzs z (List.mem_of_find?_eq_some hz) with rfl | hz'
  · exact .inl hb
  · exact .inr (hz'.trans hb.1)

/-- What is no capital letter of ASCII stays as it is. -/
theorem toLower_eq_self (h : c.toNat < 0x41 ∨ 0x5A < c.toNat) : c.toLower = c := by
  refine dif_neg fun hl => ?_
  have h₁ : 0x41 ≤ c.toNat := UInt32.le_iff_toNat_le.1 hl.1
  have h₂ : c.toNat ≤ 0x5A := UInt32.le_iff_toNat_le.1 hl.2
  omega

/-- What is no small letter of ASCII stays as it is. -/
theorem toUpper_eq_self (h : c.toNat < 0x61 ∨ 0x7A < c.toNat) : c.toUpper = c := by
  refine dif_neg fun hu => ?_
  have h₁ : 0x61 ≤ c.toNat := UInt32.le_iff_toNat_le.1 hu.1
  have h₂ : c.toNat ≤ 0x7A := UInt32.le_iff_toNat_le.1 hu.2
  omega

end Chars

namespace Numeral

variable {t : Chars} {n : Numeral}

/-- A numeral begins with a character between the parentheses and the angles of ASCII, or far
beyond ASCII. -/
theorem Writes.toNat_head (h : Writes t n) :
    ∃ c r, t = c :: r ∧ (0x2A < c.toNat ∧ c.toNat < 0x3A ∨ 0x660 ≤ c.toNat) := by
  obtain ⟨c, r, rfl, hc⟩ := h.exists_eq_cons
  refine ⟨c, r, rfl, ?_⟩
  rcases hc with rfl | rfl | rfl | ⟨v, hv⟩
  · decide
  · decide
  · decide
  · exact (Chars.toNat_of_digitValue hv).imp_left fun hc => ⟨by omega, hc.2⟩

end Numeral

namespace Literal

variable {t : Chars} {x : Binary64} {n : Numeral}

/-- **A numeral is a number:** no other rule takes it. -/
theorem gives_of_writes (h : Numeral.Writes t n) : Gives t (.ok (.number n.toBinary64)) := by
  -- Its first character alone rules out the forms that come before.
  obtain ⟨c, r, rfl, hc⟩ := h.toNat_head
  have hne : ∀ d : Char, ¬(0x2A < d.toNat ∧ d.toNat < 0x3A ∨ 0x660 ≤ d.toNat) → c ≠ d :=
    fun d hd e => hd (e ▸ hc)
  have hR : c.toUpper ≠ 'R' := by
    rw [Chars.toUpper_eq_self (by omega)]
    exact hne 'R' (by decide)
  refine .number (not_hasShape_cons (hne '[' (by decide)) (hne '<' (by decide)) hR)
    (fun inner e => ?_) (fun x e => ?_) h
  · exact hne '"' (by decide) (List.cons.inj e).1
  · have he := congrArg List.head? e
    rw [List.map_cons, List.head?_cons, Chars.toLower_eq_self (by omega)] at he
    cases x with
    | false => exact hne 'f' (by decide) (Option.some.inj he)
    | true => exact hne 't' (by decide) (Option.some.inj he)

theorem read_of_writes (h : Numeral.Writes (Chars.trim t) n) :
    read t = .ok (.number n.toBinary64) :=
  (gives_of_writes h).read_eq

/-- **The number that a text is** is the one that it is read as. -/
theorem number?_eq_some_iff_read : number? t = some x ↔ read t = .ok (.number x) := by
  rw [number?, Numeral.number?_eq_some_iff]
  constructor
  · rintro ⟨n, hn, rfl⟩
    exact read_of_writes hn
  · intro h
    cases gives_of_read h with
    | @number n _ _ _ hn => exact ⟨n, hn, rfl⟩

/-- **What a number is.**  A text, without the blanks around it, is a number exactly when it
is written as a numeral; this is when a number is read from it, and when a value is read from it
that is a number.  The number is the same, and numerals of one sign that denote one rational
number are read alike. -/
theorem isNumber_agrees (t : Chars) :
    (isNumber t = true ↔ ∃ n, Numeral.Writes (Chars.trim t) n) ∧
      (isNumber t = true ↔ ∃ x, number? t = some x) ∧
      (isNumber t = true ↔ ∃ x, read t = .ok (.number x)) ∧
      (∀ x, number? t = some x ↔ read t = .ok (.number x)) ∧
      ∀ u n m, Numeral.Writes (Chars.trim t) n → Numeral.Writes (Chars.trim u) m →
        n.negative = m.negative → n.toRat = m.toRat →
          number? t = number? u ∧ read t = read u := by
  have hw : isNumber t = true ↔ ∃ n, Numeral.Writes (Chars.trim t) n := Numeral.isNumeral_iff
  have hn : isNumber t = true ↔ ∃ x, number? t = some x := by
    rw [hw]
    constructor
    · rintro ⟨n, h⟩
      exact ⟨_, Numeral.number?_eq_some_iff.2 ⟨n, h, rfl⟩⟩
    · rintro ⟨x, h⟩
      obtain ⟨n, h, -⟩ := Numeral.number?_eq_some_iff.1 h
      exact ⟨n, h⟩
  refine ⟨hw, hn, ?_, fun x => number?_eq_some_iff_read, ?_⟩
  · simpa only [number?_eq_some_iff_read] using hn
  · intro u n m ht hu hs hq
    have hx := Numeral.toBinary64_congr hs hq
    constructor
    · rw [number?, number?, Numeral.number?_eq_some_iff.2 ⟨n, ht, rfl⟩,
        Numeral.number?_eq_some_iff.2 ⟨m, hu, rfl⟩, hx]
    · rw [read_of_writes ht, read_of_writes hu, hx]

/-- One number, written with an exponent and in the digits of another script. -/
theorem isNumber_agrees_scripts :
    Numeral.Writes (Chars.trim " -2.50e1 ") ⟨true, [2], [5, 0], 1⟩ ∧
      Numeral.Writes (Chars.trim "-٢٥") ⟨true, [2, 5], [], 0⟩ ∧
        number? " -2.50e1 " = number? "-٢٥" ∧ read " -2.50e1 " = read "-٢٥" := by
  have ht : Numeral.Writes (Chars.trim " -2.50e1 ") ⟨true, [2], [5, 0], 1⟩ :=
    Numeral.read?_eq_some_iff.1 (by decide +kernel)
  have hu : Numeral.Writes (Chars.trim "-٢٥") ⟨true, [2, 5], [], 0⟩ :=
    Numeral.read?_eq_some_iff.1 (by decide +kernel)
  refine ⟨ht, hu, (isNumber_agrees _).2.2.2.2 _ _ _ ht hu rfl ?_⟩
  decide +kernel

end Literal
end DraftScript
