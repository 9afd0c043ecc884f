/-
# The forms of literals

| shape | text |
| --- | --- |
| point | `[`, anything, `]` |
| vector | `<`, anything, `>` |
| color | `RGB` in any case, blanks, `(`, anything, `)` |

The shapes are told apart by their first characters, so a text has one at most, and it has
the one that is found (`shape?_eq_some_iff`).  What a shape encloses is cut at every comma,
also inside brackets or quotes (`components_eq_iff`).
-/

import DraftScript.Literal
import DraftScript.Proofs.Chars.Split
import Mathlib.Data.List.Basic
import Mathlib.Data.List.TakeWhile

namespace DraftScript
namespace Literal

variable {t inner : Chars} {s : Shape}

/-! ## Texts between two characters -/

theorem enclosed_eq_some_iff {o k : Char} :
    enclosed o k t = some inner ↔ t = o :: (inner ++ [k]) := by
  constructor
  · exact eq_of_enclosed
  · rintro rfl
    exact enclosed_append o k inner

theorem enclosed_of_ne {o k d : Char} (h : d ≠ o) : enclosed o k (d :: t) = none := by
  rw [enclosed, if_neg fun hc => h hc.1]

/-! ## Shapes -/

/-- The shape of a text, and what it encloses. -/
inductive HasShape : Chars → Shape → Chars → Prop
  | point (inner : Chars) : HasShape ('[' :: (inner ++ [']'])) .point inner
  | vector (inner : Chars) : HasShape ('<' :: (inner ++ ['>'])) .vector inner
  | color {k b : Chars} (inner : Chars) (hk : k.map Char.toUpper = "RGB".toList)
      (hb : ∀ c ∈ b, Chars.isBlank c = true) :
      HasShape (k ++ (b ++ '(' :: (inner ++ [')']))) .color inner

theorem colorInner_eq_some_iff :
    colorInner t = some inner ↔ ∃ k b, t = k ++ (b ++ '(' :: (inner ++ [')'])) ∧
      k.map Char.toUpper = "RGB".toList ∧ ∀ c ∈ b, Chars.isBlank c = true := by
  constructor
  · intro h
    unfold colorInner at h
    split at h
    · next r g b rest =>
      split at h
      · next hk =>
        refine ⟨[r, g, b], rest.takeWhile Chars.isBlank, ?_, hk,
          fun c hc => List.mem_takeWhile_imp hc⟩
        rw [← enclosed_eq_some_iff.1 h, List.takeWhile_append_dropWhile]
        rfl
      · cases h
    · cases h
  · rintro ⟨k, b, rfl, hk, hb⟩
    have hl : k.length = 3 := by simpa using congrArg List.length hk
    obtain ⟨r, g, b', rfl⟩ := List.length_eq_three.1 hl
    have hd : (b ++ '(' :: (inner ++ [')'])).dropWhile Chars.isBlank = '(' :: (inner ++ [')']) := by
      rw [List.dropWhile_append_of_pos hb, List.dropWhile_cons_of_neg (by decide)]
    rw [List.cons_append, List.cons_append, List.cons_append, List.nil_append, colorInner,
      if_pos (show _ = ['R', 'G', 'B'] from hk), hd, enclosed_append]

/-- **The shape that is found** is the one that the text has. -/
theorem shape?_eq_some_iff : shape? t = some (s, inner) ↔ HasShape t s inner := by
  constructor
  · intro h
    unfold shape? at h
    cases hp : enclosed '[' ']' t with
    | some i =>
      rw [hp] at h
      cases h
      rw [enclosed_eq_some_iff.1 hp]
      exact .point _
    | none =>
      cases hv : enclosed '<' '>' t with
      | some i =>
        rw [hp, hv] at h
        cases h
        rw [enclosed_eq_some_iff.1 hv]
        exact .vector _
      | none =>
        rw [hp, hv] at h
        obtain ⟨i, hc, e⟩ := Option.map_eq_some_iff.1 h
        cases e
        obtain ⟨k, b, rfl, hk, hb⟩ := colorInner_eq_some_iff.1 hc
        exact .color _ hk hb
  · intro h
    cases h with
    | point => simp [shape?, enclosed_append]
    | vector => simp [shape?, enclosed_append, enclosed_of_ne (show '<' ≠ '[' by decide)]
    | color _ hk hb =>
      have hc : colorInner _ = some inner := colorInner_eq_some_iff.2 ⟨_, _, rfl, hk, hb⟩
      obtain ⟨c, r, rfl, hR, -⟩ := List.map_eq_cons_iff.1 hk
      have hne : ∀ d : Char, d.toUpper ≠ 'R' → c ≠ d := fun d hd e => hd (e ▸ hR)
      rw [List.cons_append] at hc ⊢
      simp [shape?, enclosed_of_ne (hne '[' (by decide)), enclosed_of_ne (hne '<' (by decide)), hc]

/-- A text of a shape begins with a bracket, an angle or the keyword. -/
theorem HasShape.exists_eq_cons (h : HasShape t s inner) :
    ∃ c r, t = c :: r ∧ (c = '[' ∨ c = '<' ∨ c.toUpper = 'R') := by
  cases h with
  | point => exact ⟨'[', _, rfl, .inl rfl⟩
  | vector => exact ⟨'<', _, rfl, .inr (.inl rfl)⟩
  | color _ hk =>
    obtain ⟨c, r, rfl, hc, -⟩ := List.map_eq_cons_iff.1 hk
    exact ⟨c, _, rfl, .inr (.inr hc)⟩

theorem shape?_eq_none_iff : shape? t = none ↔ ∀ s inner, ¬HasShape t s inner := by
  simp only [Option.eq_none_iff_forall_ne_some, ne_eq, Prod.forall, shape?_eq_some_iff]

/-- A text that begins like none of the three shapes has none. -/
theorem not_hasShape_cons {d : Char} (h₁ : d ≠ '[') (h₂ : d ≠ '<') (h₃ : d.toUpper ≠ 'R')
    (s : Shape) (inner : Chars) : ¬HasShape (d :: t) s inner := by
  intro h
  obtain ⟨c, r, e, hc⟩ := h.exists_eq_cons
  obtain ⟨rfl, -⟩ := List.cons.inj e
  exact hc.elim h₁ fun hc => hc.elim h₂ h₃

/-! ## Components -/

/-- The trimmed parts of a text cut at every comma. -/
def IsCut (inner : Chars) (parts : List Chars) : Prop :=
  ∃ ps, ps ≠ [] ∧ ",".toList.intercalate ps = inner ∧ (∀ p ∈ ps, ',' ∉ p) ∧
    parts = ps.map Chars.trim

theorem components_eq_iff {parts : List Chars} : components inner = parts ↔ IsCut inner parts := by
  constructor
  · rintro rfl
    obtain ⟨hne, hj, hp⟩ := Chars.splitOn_eq_iff.1 (rfl : Chars.splitOn ',' inner = _)
    exact ⟨_, hne, hj, hp, rfl⟩
  · rintro ⟨ps, hne, hj, hp, rfl⟩
    have hs : Chars.splitOn ',' inner = ps := Chars.splitOn_eq_iff.2 ⟨hne, hj, hp⟩
    rw [components, hs]

end Literal
end DraftScript
