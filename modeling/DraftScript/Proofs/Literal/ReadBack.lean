/-
# Literals read back

The literal of a value reads as that value (`read_literal`).  The six forms are told
apart by their ends: brackets, angles, the keyword before a parenthesis, and quotes
settle the first four at once, and a number is written in characters that no other form
begins with.  A text between quotes is taken as it stands, whatever it holds.

A value has a literal when its numbers are finite and its channels are not too long; a
zero comes back without its sign.
-/

import DraftScript.Proofs.Literal.Number
import DraftScript.Proofs.Number.ReadBack

namespace DraftScript

namespace Value

/-- Whether a value has a literal: its numbers are finite and its channels can be
written. -/
def HasLiteral : Value → Prop
  | number x => x.isFinite = true
  | text _ | boolean _ => True
  | point x y z | vector x y z => x.isFinite = true ∧ y.isFinite = true ∧ z.isFinite = true
  | color r g b =>
    DraftScript.isWritable r = true ∧ DraftScript.isWritable g = true ∧
      DraftScript.isWritable b = true

instance : DecidablePred HasLiteral
  | number x => inferInstanceAs (Decidable (x.isFinite = true))
  | text _ | boolean _ => inferInstanceAs (Decidable True)
  | point x y z | vector x y z => inferInstanceAs
      (Decidable (x.isFinite = true ∧ y.isFinite = true ∧ z.isFinite = true))
  | color r g b => inferInstanceAs
      (Decidable (DraftScript.isWritable r = true ∧ DraftScript.isWritable g = true ∧
        DraftScript.isWritable b = true))

/-- The value with every zero unsigned. -/
def unsignZeros : Value → Value
  | number x => number x.unsignZero
  | point x y z => point x.unsignZero y.unsignZero z.unsignZero
  | vector x y z => vector x.unsignZero y.unsignZero z.unsignZero
  | v => v

theorem same_unsignZero {x : Binary64} (hx : x.isFinite = true) : x.unsignZero.same x = true := by
  cases x with
  | nan => simp [Binary64.isFinite] at hx
  | infinity s => simp [Binary64.isFinite] at hx
  | finite s m e h =>
    by_cases hm : m = 0
    · simp [Binary64.unsignZero, Binary64.isZero, hm, Binary64.zero, Binary64.same]
    · simp [Binary64.unsignZero_of_ne_zero hm, Binary64.same]

/-- Without the signs of its zeros a value is the same. -/
theorem same_unsignZeros {v : Value} (h : v.HasLiteral) : v.unsignZeros.same v = true := by
  cases v with
  | number x => exact same_unsignZero h
  | text t => simp [unsignZeros, same]
  | boolean b => simp [unsignZeros, same]
  | point x y z | vector x y z =>
    obtain ⟨hx, hy, hz⟩ := h
    simp [unsignZeros, same, same_unsignZero hx, same_unsignZero hy, same_unsignZero hz]
  | color r g b => simp [unsignZeros, same]

theorem kind_unsignZeros (v : Value) : v.unsignZeros.kind = v.kind := by
  cases v <;> rfl

/-! ## Literals, told by their ends -/

theorem literal_text (t : Chars) : (text t).literal = '"' :: (t ++ ['"']) := rfl

theorem literal_point (x y z : Binary64) :
    (point x y z).literal = '[' :: (triple x.compact y.compact z.compact ++ [']']) := rfl

theorem literal_vector (x y z : Binary64) :
    (vector x y z).literal = '<' :: (triple x.compact y.compact z.compact ++ ['>']) := rfl

theorem literal_color (r g b : ℤ) :
    (color r g b).literal = "RGB".toList ++ '(' ::
      (triple (Chars.ofInt r) (Chars.ofInt g) (Chars.ofInt b) ++ [')']) := rfl

end Value

/-! ## The characters of written numbers -/

section NumeralChar

variable {c d : Char} {t a b : Chars}

theorem ne_of_isNumeralChar (hc : isNumeralChar c = true) (hd : isNumeralChar d = false) :
    c ≠ d := by
  rintro rfl
  simp [hd] at hc

theorem isNumeralChar_cases (h : isNumeralChar c = true) :
    c.isDigit = true ∨ c = '.' ∨ c = 'e' ∨ c = '+' ∨ c = '-' := by
  simpa [isNumeralChar, or_assoc] using h

theorem isBlank_of_isNumeralChar (h : isNumeralChar c = true) : Chars.isBlank c = false := by
  rcases isNumeralChar_cases h with h | rfl | rfl | rfl | rfl
  · have hc := Chars.toNat_of_isDigit h
    unfold Chars.isBlank
    simp only [Bool.or_eq_false_iff, Bool.and_eq_false_iff, decide_eq_false_iff_not,
      beq_eq_false_iff_ne]
    omega
  all_goals decide

/-- A text of such characters, of which there is one at least. -/
structure IsNumeralText (t : Chars) : Prop where
  head : ∃ c r, t = c :: r
  chars : ∀ c ∈ t, isNumeralChar c = true

theorem isNumeralText_compact {x : Binary64} (hx : x.isFinite = true) :
    IsNumeralText x.compact :=
  ⟨(Binary64.compact_chars hx).1, (Binary64.compact_chars hx).2⟩

theorem isNumeralText_ofInt (n : ℤ) : IsNumeralText (Chars.ofInt n) := by
  have hd : ∀ c ∈ Chars.ofNat n.natAbs, isNumeralChar c = true := fun c hc =>
    isNumeralChar_of_isDigit (Chars.isDigit_of_mem_ofNat hc)
  unfold Chars.ofInt
  split
  · exact ⟨⟨_, _, rfl⟩, List.forall_mem_cons.2 ⟨rfl, hd⟩⟩
  · exact ⟨List.exists_cons_of_ne_nil (Chars.ofNat_ne_nil _), hd⟩

namespace IsNumeralText

theorem not_mem (h : IsNumeralText t) (hd : isNumeralChar d = false) : d ∉ t := fun hm =>
  ne_of_isNumeralChar (h.chars d hm) hd rfl

theorem trim_eq (h : IsNumeralText t) : Chars.trim t = t :=
  Chars.trim_eq_self_iff.2
    ⟨fun c hc => isBlank_of_isNumeralChar (h.chars c (List.mem_of_mem_head? hc)),
      fun c hc => isBlank_of_isNumeralChar (h.chars c (List.mem_of_mem_getLast? hc))⟩

/-- The space after a comma is not seen. -/
theorem trim_space (h : IsNumeralText t) : Chars.trim (' ' :: t) = t := by
  rw [Chars.trim_space, h.trim_eq]

end IsNumeralText

end NumeralChar

namespace Literal

variable {t a b c : Chars}

/-! ## Three components -/

/-- The components of a triple are what it was made of. -/
theorem components_triple (ha : IsNumeralText a) (hb : IsNumeralText b) (hc : IsNumeralText c) :
    components (Value.triple a b c) = [a, b, c] := by
  have hsp : ∀ {t : Chars}, IsNumeralText t → ',' ∉ ' ' :: t := fun h => by
    simp [h.not_mem (d := ',') rfl]
  have ht : Value.triple a b c = a ++ ',' :: ((' ' :: b) ++ ',' :: ' ' :: c) := by
    simp [Value.triple]
  rw [components, ht, Chars.splitOn_append (ha.not_mem rfl), Chars.splitOn_append (hsp hb),
    Chars.splitOn_of_not_mem (hsp hc)]
  simp [ha.trim_eq, hb.trim_space, hc.trim_space]

theorem coordinate_compact {x : Binary64} (hx : x.isFinite = true) (s : Shape) (l : Chars) :
    coordinate s l x.compact = .ok x.unsignZero := by
  rw [coordinate, Binary64.number?_compact hx]

/-- A whole number reads as a sign and its digits. -/
theorem read?_ofInt (n : ℤ) :
    WholeNumeral.read? (Chars.ofInt n) =
      some ⟨decide (n < 0), Chars.values (Chars.ofNat n.natAbs)⟩ := by
  have hd : Chars.IsDigits (Chars.ofNat n.natAbs) (Chars.values (Chars.ofNat n.natAbs)) :=
    Chars.isDigits_values fun c hc => Chars.isDigit_of_mem_ofNat hc
  have hne := Chars.ofNat_ne_nil n.natAbs
  rw [WholeNumeral.read?_eq_some_iff, Chars.ofInt]
  by_cases h : n < 0
  · rw [if_pos h, decide_eq_true h]
    exact ⟨['-'], _, rfl, .minus, hd, hne⟩
  · rw [if_neg h, decide_eq_false h]
    exact ⟨[], _, rfl, .absent, hd, hne⟩

/-- The numbers that can be written have as many digits as are read. -/
theorem length_values_le_iff (n : ℤ) :
    (Chars.values (Chars.ofNat n.natAbs)).length ≤ digitLimit ↔ isWritable n = true := by
  rw [Chars.values, List.length_map, Chars.ofNat,
    Nat.length_toDigits_le_iff (by norm_num) (by norm_num [digitLimit])]
  simp [isWritable]

/-- That sign and those digits denote the whole number. -/
theorem toInt_ofInt (n : ℤ) :
    (⟨decide (n < 0), Chars.values (Chars.ofNat n.natAbs)⟩ : WholeNumeral).toInt = n := by
  rw [WholeNumeral.toInt, Chars.ofDigits_values, Chars.ofNat, Nat.ofDigitChars_ten_toDigits]
  simp only [decide_eq_true_eq]
  split <;> omega

theorem channel_ofInt {n : ℤ} (hn : isWritable n = true) (l : Chars) :
    channel l (Chars.ofInt n) = .ok n := by
  rw [channel, read?_ofInt]
  simp only [if_pos ((length_values_le_iff n).2 hn), toInt_ofInt]

/-! ## The six literals -/

/-- A text between quotes is read as it stands. -/
theorem read_quoted (t : Chars) : read ('"' :: (t ++ ['"'])) = .ok (.text t) := by
  have hq : Chars.isBlank '"' = false := by decide
  refine Gives.read_eq ?_
  rw [Chars.trim_cons_concat hq hq]
  exact .quoted (not_hasShape_cons (by decide) (by decide) (by decide)) rfl

/-- A trimmed text of a shape is read by its three components. -/
theorem read_of_triple {s : Shape} (ht : Chars.trim t = t)
    (hs : HasShape t s (Value.triple a b c)) (ha : IsNumeralText a) (hb : IsNumeralText b)
    (hc : IsNumeralText c) : read t = build s t a b c := by
  have hcut := components_eq_iff.1 (components_triple ha hb hc)
  rw [read_of_hasShape (ht.symm ▸ hs), ht, readShape_of_isCut hcut]

/-- What the literal of a color encloses. -/
theorem hasShape_color (t : Chars) :
    HasShape ("RGB".toList ++ '(' :: (t ++ [')'])) .color t :=
  .color t (k := "RGB".toList) (b := []) (by decide) (by simp)

theorem trim_literal_color (r g b : ℤ) :
    Chars.trim (Value.color r g b).literal = (Value.color r g b).literal := by
  rw [Value.literal_color]
  exact Chars.trim_cons_concat (t := 'G' :: 'B' :: '(' :: Value.triple _ _ _) (by decide)
    (by decide)

theorem trim_literal {v : Value} (h : v.HasLiteral) : Chars.trim v.literal = v.literal := by
  cases v with
  | number x => exact (isNumeralText_compact h).trim_eq
  | text t =>
    rw [Value.literal_text]
    exact Chars.trim_cons_concat (by decide) (by decide)
  | boolean b => cases b <;> decide
  | point x y z =>
    rw [Value.literal_point]
    exact Chars.trim_cons_concat (by decide) (by decide)
  | vector x y z =>
    rw [Value.literal_vector]
    exact Chars.trim_cons_concat (by decide) (by decide)
  | color r g b => exact trim_literal_color r g b

/-- The literal of a value reads as the value, a zero without its sign. -/
theorem read_literal {v : Value} (h : v.HasLiteral) : read v.literal = .ok v.unsignZeros := by
  have ht := trim_literal h
  cases v with
  | number x =>
    refine number?_eq_some_iff_read.1 ?_
    rw [number?, ht]
    exact Binary64.number?_compact h
  | text t =>
    rw [Value.literal_text, read_quoted]
    rfl
  | boolean b => cases b <;> decide +kernel
  | point x y z =>
    obtain ⟨hx, hy, hz⟩ := h
    rw [Value.literal_point] at ht ⊢
    rw [read_of_triple ht (.point _) (isNumeralText_compact hx) (isNumeralText_compact hy)
      (isNumeralText_compact hz)]
    simp only [build, coordinate_compact hx, coordinate_compact hy, coordinate_compact hz]
    rfl
  | vector x y z =>
    obtain ⟨hx, hy, hz⟩ := h
    rw [Value.literal_vector] at ht ⊢
    rw [read_of_triple ht (.vector _) (isNumeralText_compact hx) (isNumeralText_compact hy)
      (isNumeralText_compact hz)]
    simp only [build, coordinate_compact hx, coordinate_compact hy, coordinate_compact hz]
    rfl
  | color r g b =>
    obtain ⟨hr, hg, hb⟩ := h
    rw [Value.literal_color] at ht ⊢
    rw [read_of_triple ht (hasShape_color _) (isNumeralText_ofInt r) (isNumeralText_ofInt g)
      (isNumeralText_ofInt b)]
    simp only [build, channel_ofInt hr, channel_ofInt hg, channel_ofInt hb]
    rfl

/-- **The literal of a value reads as a value of its kind with its components,** the same
as numbers, only that a zero has lost its sign. -/
theorem literal_reads_back {v : Value} (h : v.HasLiteral) :
    read v.literal = .ok v.unsignZeros ∧ v.unsignZeros.kind = v.kind ∧
      v.unsignZeros.same v = true :=
  ⟨read_literal h, v.kind_unsignZeros, v.same_unsignZeros h⟩

/-- A point whose coordinates are a minus zero, the least positive number and one that
needs a power of ten. -/
theorem literal_reads_back_point :
    (Value.point (.zero true) (.ofDecimal false 5 (-324)) (.ofDecimal true 1 22)).HasLiteral ∧
      read (Value.point (.zero true) (.ofDecimal false 5 (-324)) (.ofDecimal true 1 22)).literal =
        .ok (.point (.zero false) (.ofDecimal false 5 (-324)) (.ofDecimal true 1 22)) := by
  have h : (Value.point (.zero true) (.ofDecimal false 5 (-324))
      (.ofDecimal true 1 22)).HasLiteral := by
    decide +kernel
  refine ⟨h, (literal_reads_back h).1.trans ?_⟩
  decide +kernel

end Literal
end DraftScript
