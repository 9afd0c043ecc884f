/-
# What a literal gives

`Literal.Gives` lists the outcomes of a trimmed text by what it looks like, without the
functions that take it apart:

| case | the text | outcome |
| --- | --- | --- |
| `miscounted` | a shape around any number of parts but three | `E201` |
| `refused` | a shape around three parts | that of the first part that is refused |
| `point`, `vector`, `color` | a shape around three components | the value of the shape |
| `quoted` | no shape, a text between quotes | that text |
| `truth` | none of these, `true` or `false` in any case | the truth value |
| `number` | none of these, a numeral | the number |
| `text` | none of these | the text |

A part is refused when it is no component, with `E202`, and as a channel of a color also when
it is too long to convert (`PartRefused`).  The parts are counted before any is looked
at, and they are looked at in order.

Reading a text gives exactly what the list says (`read_eq_iff_gives`).  So a text that has a
shape never stands for itself, and only such a text is ever refused.
-/

import DraftScript.Proofs.Literal.Forms
import DraftScript.Proofs.Number.Grammar
import DraftScript.Proofs.Steps

namespace DraftScript
namespace Literal

variable {t inner p a b c : Chars} {parts : List Chars} {s : Shape} {e : Refusal} {v : Value}

/-! ## One part -/

/-- Whether a part is one of the numbers that a shape is made of. -/
def IsComponent : Shape → Chars → Prop
  | .color, p => ∃ n, WholeNumeral.Writes p n
  | _, p => ∃ n, Numeral.Writes p n

/-- The causes for which a part of a shape in a text is refused. -/
inductive PartRefused (s : Shape) (t p : Chars) : Refusal → Prop
  | misformed (h : ¬IsComponent s p) : PartRefused s t p (.component s.kind.name p t)
  | overlong {n : WholeNumeral} (hs : s = .color) (h : WholeNumeral.Writes p n)
      (hn : digitLimit < n.digits.length) : PartRefused s t p (.digits n.digits.length)

/-- A coordinate, and the number nearest to what it denotes. -/
def IsCoordinate (p : Chars) (x : Binary64) : Prop := ∃ n, Numeral.Writes p n ∧ n.toBinary64 = x

/-- A channel of a color, and the whole number that it denotes. -/
def IsChannel (p : Chars) (k : ℤ) : Prop :=
  ∃ n, WholeNumeral.Writes p n ∧ n.digits.length ≤ digitLimit ∧ n.toInt = k

theorem coordinate_eq_ok_iff {x : Binary64} : coordinate s t p = .ok x ↔ IsCoordinate p x := by
  rw [IsCoordinate, ← Numeral.number?_eq_some_iff, coordinate]
  split
  · next h => simp [h]
  · next h => simp [h]

theorem channel_eq_ok_iff {k : ℤ} : channel t p = .ok k ↔ IsChannel p k := by
  simp only [IsChannel, ← WholeNumeral.read?_eq_some_iff]
  unfold channel
  split
  · next n h =>
    split
    · next hn => simp [h, hn]
    · next hn => simp [h, hn]
  · next h => simp [h]

theorem coordinate_eq_error_iff (hs : s ≠ .color) :
    coordinate s t p = .error e ↔ PartRefused s t p e := by
  have hc : IsComponent s p ↔ ∃ n, Numeral.Writes p n := by
    cases s with
    | color => exact absurd rfl hs
    | point | vector => rfl
  unfold coordinate
  constructor
  · intro h
    split at h
    · cases h
    · next hn =>
      rw [← Except.error.inj h]
      refine .misformed ?_
      rw [hc, not_exists]
      exact Numeral.number?_eq_none_iff.1 hn
  · rintro (h | ⟨rfl, -, -⟩)
    · rw [hc, not_exists] at h
      rw [Numeral.number?_eq_none_iff.2 h]
    · exact absurd rfl hs

theorem channel_eq_error_iff : channel t p = .error e ↔ PartRefused .color t p e := by
  unfold channel
  constructor
  · intro h
    split at h
    · next n hn =>
      split at h
      · cases h
      · next hl =>
        rw [← Except.error.inj h]
        exact .overlong rfl (WholeNumeral.read?_eq_some_iff.1 hn) (Nat.lt_of_not_le hl)
    · next hn =>
      rw [← Except.error.inj h]
      exact .misformed (not_exists.2 (WholeNumeral.read?_eq_none_iff.1 hn))
  · rintro (h | ⟨-, h, hn⟩)
    · rw [WholeNumeral.read?_eq_none_iff.2 (not_exists.1 h)]
      rfl
    · rw [WholeNumeral.read?_eq_some_iff.2 h]
      exact if_neg (Nat.not_le_of_lt hn)

/-! ## Three parts -/

/-- **Three parts are refused for the first of them that is.** -/
theorem build_eq_error_iff :
    build s t a b c = .error e ↔ ∃ before p after, [a, b, c] = before ++ p :: after ∧
      (∀ q ∈ before, ∀ e, ¬PartRefused s t q e) ∧ PartRefused s t p e := by
  cases s with
  | color =>
    refine (three_eq_error_iff (f := channel t) (g := Value.color)).trans ?_
    simp only [exists_eq_ok_iff, ne_eq, channel_eq_error_iff]
  | point =>
    have hs : Shape.point ≠ .color := by decide
    refine (three_eq_error_iff (f := coordinate .point t) (g := Value.point)).trans ?_
    simp only [exists_eq_ok_iff, ne_eq, coordinate_eq_error_iff hs]
  | vector =>
    have hs : Shape.vector ≠ .color := by decide
    refine (three_eq_error_iff (f := coordinate .vector t) (g := Value.vector)).trans ?_
    simp only [exists_eq_ok_iff, ne_eq, coordinate_eq_error_iff hs]

theorem readShape_of_length_ne (hc : IsCut inner parts) (hn : parts.length ≠ 3) :
    readShape s t inner = .error (.count s.kind.name 3 t) := by
  rw [readShape, components_eq_iff.2 hc]
  split
  · exact absurd rfl hn
  · rfl

theorem readShape_of_isCut (hc : IsCut inner [a, b, c]) :
    readShape s t inner = build s t a b c := by
  rw [readShape, components_eq_iff.2 hc]

/-! ## A text without a shape -/

theorem truth?_eq_some_iff {x : Bool} :
    truth? t = some x ↔ t.map Char.toLower = Value.truthText x := by
  unfold truth?
  dsimp only
  split
  · next h => rw [h]; cases x <;> decide
  · next h =>
    split
    · next h' => rw [h']; cases x <;> decide
    · next h' =>
      simp only [reduceCtorEq, false_iff]
      cases x with
      | false => exact h'
      | true => exact h

theorem truth?_eq_none_iff : truth? t = none ↔ ∀ x, t.map Char.toLower ≠ Value.truthText x := by
  simp only [Option.eq_none_iff_forall_ne_some, ne_eq, truth?_eq_some_iff]

theorem enclosed_eq_none_iff {o k : Char} :
    enclosed o k t = none ↔ ∀ inner, t ≠ o :: (inner ++ [k]) := by
  simp only [Option.eq_none_iff_forall_ne_some, ne_eq, enclosed_eq_some_iff]

/-! ## A whole text -/

/-- What a trimmed text gives: a value, or the cause for which it is refused. -/
inductive Gives (t : Chars) : Except Refusal Value → Prop
  | miscounted {s : Shape} {inner : Chars} {parts : List Chars} (h : HasShape t s inner)
      (hc : IsCut inner parts) (hn : parts.length ≠ 3) :
      Gives t (.error (.count s.kind.name 3 t))
  | refused {s : Shape} {inner p : Chars} {before after : List Chars} {e : Refusal}
      (h : HasShape t s inner) (hc : IsCut inner (before ++ p :: after))
      (hn : (before ++ p :: after).length = 3) (hb : ∀ q ∈ before, ∀ e, ¬PartRefused s t q e)
      (hp : PartRefused s t p e) : Gives t (.error e)
  | point {inner a b c : Chars} {x y z : Binary64} (h : HasShape t .point inner)
      (hc : IsCut inner [a, b, c]) (hx : IsCoordinate a x) (hy : IsCoordinate b y)
      (hz : IsCoordinate c z) : Gives t (.ok (.point x y z))
  | vector {inner a b c : Chars} {x y z : Binary64} (h : HasShape t .vector inner)
      (hc : IsCut inner [a, b, c]) (hx : IsCoordinate a x) (hy : IsCoordinate b y)
      (hz : IsCoordinate c z) : Gives t (.ok (.vector x y z))
  | color {inner a b c : Chars} {i j k : ℤ} (h : HasShape t .color inner)
      (hc : IsCut inner [a, b, c]) (hi : IsChannel a i) (hj : IsChannel b j)
      (hk : IsChannel c k) : Gives t (.ok (.color i j k))
  | quoted {inner : Chars} (hs : ∀ s inner, ¬HasShape t s inner)
      (h : t = '"' :: (inner ++ ['"'])) : Gives t (.ok (.text inner))
  | truth {x : Bool} (hs : ∀ s inner, ¬HasShape t s inner)
      (hq : ∀ inner, t ≠ '"' :: (inner ++ ['"']))
      (h : t.map Char.toLower = Value.truthText x) : Gives t (.ok (.boolean x))
  | number {n : Numeral} (hs : ∀ s inner, ¬HasShape t s inner)
      (hq : ∀ inner, t ≠ '"' :: (inner ++ ['"']))
      (hb : ∀ x, t.map Char.toLower ≠ Value.truthText x) (h : Numeral.Writes t n) :
      Gives t (.ok (.number n.toBinary64))
  | text (hs : ∀ s inner, ¬HasShape t s inner) (hq : ∀ inner, t ≠ '"' :: (inner ++ ['"']))
      (hb : ∀ x, t.map Char.toLower ≠ Value.truthText x) (hn : ∀ n, ¬Numeral.Writes t n) :
      Gives t (.ok (.text t))

theorem read_of_hasShape (h : HasShape (Chars.trim t) s inner) :
    read t = readShape s (Chars.trim t) inner := by
  simp only [read, shape?_eq_some_iff.2 h]

theorem read_of_not_hasShape (h : ∀ s inner, ¬HasShape (Chars.trim t) s inner) :
    read t = .ok (readPlain (Chars.trim t)) := by
  simp only [read, shape?_eq_none_iff.2 h]

/-- What the list says is what reading gives. -/
theorem Gives.read_eq {r : Except Refusal Value} (h : Gives (Chars.trim t) r) : read t = r := by
  cases h with
  | miscounted h hc hn => rw [read_of_hasShape h, readShape_of_length_ne hc hn]
  | refused h hc hn hb hp =>
    obtain ⟨a, b, c, habc⟩ := List.length_eq_three.1 hn
    rw [read_of_hasShape h, readShape_of_isCut (habc ▸ hc)]
    exact build_eq_error_iff.2 ⟨_, _, _, habc.symm, hb, hp⟩
  | point h hc hx hy hz =>
    rw [read_of_hasShape h, readShape_of_isCut hc]
    exact three_eq_ok_iff.2 ⟨_, _, _, coordinate_eq_ok_iff.2 hx, coordinate_eq_ok_iff.2 hy,
      coordinate_eq_ok_iff.2 hz, rfl⟩
  | vector h hc hx hy hz =>
    rw [read_of_hasShape h, readShape_of_isCut hc]
    exact three_eq_ok_iff.2 ⟨_, _, _, coordinate_eq_ok_iff.2 hx, coordinate_eq_ok_iff.2 hy,
      coordinate_eq_ok_iff.2 hz, rfl⟩
  | color h hc hi hj hk =>
    rw [read_of_hasShape h, readShape_of_isCut hc]
    exact three_eq_ok_iff.2 ⟨_, _, _, channel_eq_ok_iff.2 hi, channel_eq_ok_iff.2 hj,
      channel_eq_ok_iff.2 hk, rfl⟩
  | quoted hs h =>
    rw [read_of_not_hasShape hs]
    simp only [readPlain, enclosed_eq_some_iff.2 h]
  | truth hs hq h =>
    rw [read_of_not_hasShape hs]
    simp only [readPlain, enclosed_eq_none_iff.2 hq, truth?_eq_some_iff.2 h]
  | number hs hq hb h =>
    rw [read_of_not_hasShape hs]
    simp only [readPlain, enclosed_eq_none_iff.2 hq, truth?_eq_none_iff.2 hb,
      Numeral.number?_eq_some_iff.2 ⟨_, h, rfl⟩]
  | text hs hq hb hn =>
    rw [read_of_not_hasShape hs]
    simp only [readPlain, enclosed_eq_none_iff.2 hq, truth?_eq_none_iff.2 hb,
      Numeral.number?_eq_none_iff.2 hn]

/-- A value of three parts is that of the shape. -/
theorem gives_of_build (h : HasShape t s inner) (hc : IsCut inner [a, b, c])
    (hv : build s t a b c = .ok v) : Gives t (.ok v) := by
  cases s with
  | point =>
    obtain ⟨x, y, z, hx, hy, hz, rfl⟩ := three_eq_ok_iff.1 hv
    exact .point h hc (coordinate_eq_ok_iff.1 hx) (coordinate_eq_ok_iff.1 hy)
      (coordinate_eq_ok_iff.1 hz)
  | vector =>
    obtain ⟨x, y, z, hx, hy, hz, rfl⟩ := three_eq_ok_iff.1 hv
    exact .vector h hc (coordinate_eq_ok_iff.1 hx) (coordinate_eq_ok_iff.1 hy)
      (coordinate_eq_ok_iff.1 hz)
  | color =>
    obtain ⟨i, j, k, hi, hj, hk, rfl⟩ := three_eq_ok_iff.1 hv
    exact .color h hc (channel_eq_ok_iff.1 hi) (channel_eq_ok_iff.1 hj) (channel_eq_ok_iff.1 hk)

/-- Every text has an outcome of the list. -/
theorem exists_gives (t : Chars) : ∃ r, Gives t r := by
  -- The cases are told apart in the order of the list, each by what it asks for.
  by_cases h : ∃ s inner, HasShape t s inner
  · obtain ⟨s, inner, h⟩ := h
    have hc : IsCut inner (components inner) := components_eq_iff.1 rfl
    by_cases hn : (components inner).length = 3
    · obtain ⟨a, b, c, habc⟩ := List.length_eq_three.1 hn
      rw [habc] at hc
      cases hb : build s t a b c with
      | ok v => exact ⟨_, gives_of_build h hc hb⟩
      | error e =>
        obtain ⟨before, p, after, hl, hbefore, hp⟩ := build_eq_error_iff.1 hb
        rw [hl] at hc
        exact ⟨_, .refused h hc (by rw [← hl]; rfl) hbefore hp⟩
    · exact ⟨_, .miscounted h hc hn⟩
  simp only [not_exists] at h
  by_cases hq : ∃ inner, t = '"' :: (inner ++ ['"'])
  · obtain ⟨inner, hq⟩ := hq
    exact ⟨_, .quoted h hq⟩
  rw [not_exists] at hq
  by_cases hb : ∃ x, t.map Char.toLower = Value.truthText x
  · obtain ⟨x, hb⟩ := hb
    exact ⟨_, .truth h hq hb⟩
  rw [not_exists] at hb
  by_cases hn : ∃ n, Numeral.Writes t n
  · obtain ⟨n, hn⟩ := hn
    exact ⟨_, .number h hq hb hn⟩
  · exact ⟨_, .text h hq hb (not_exists.1 hn)⟩

/-- What reading a text gives is of the list. -/
theorem gives_of_read {r : Except Refusal Value} (h : read t = r) : Gives (Chars.trim t) r := by
  obtain ⟨r', hg⟩ := exists_gives (Chars.trim t)
  obtain rfl := hg.read_eq.symm.trans h
  exact hg

/-- **Reading a text gives what the list says, and nothing else.** -/
theorem read_eq_iff_gives (t : Chars) (r : Except Refusal Value) :
    read t = r ↔ Gives (Chars.trim t) r :=
  ⟨gives_of_read, Gives.read_eq⟩

/-- The parts are counted first, and one quote alone is not between quotes. -/
example : read " [a, 1] " = .error (.count "point" 3 "[a, 1]") := by decide +kernel
example : read "\"" = .ok (.text "\"") := by decide +kernel

end Literal
end DraftScript
