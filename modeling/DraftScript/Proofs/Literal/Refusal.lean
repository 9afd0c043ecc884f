/-
# Why a literal is refused

Only a text with the shape of a point, a vector or a color is ever refused, and
`RefusedFor` lists the causes: it has not three parts, a part is not a number, or a
channel of a color has more digits than are read.

All but the last are errors of a format.  The digits of a channel are counted after the
channel has passed as a whole number, so an overlong one is a refusal without an error
of the script (`RefusedFor.errorClass?_eq`).
-/

import DraftScript.Proofs.Literal.ReadBack

namespace DraftScript
namespace Literal

variable {t part : Chars} {s : Shape} {e : Refusal}

/-- The causes for which a trimmed text is refused. -/
inductive RefusedFor (t : Chars) : Refusal → Prop
  | count {s : Shape} {inner : Chars} (h : shape? t = some (s, inner))
      (hn : (components inner).length ≠ 3) : RefusedFor t (.count s.kind.name 3 t)
  | component {s : Shape} {inner part : Chars} (h : shape? t = some (s, inner))
      (hp : part ∈ components inner) (hr : ¬IsComponent s part) :
      RefusedFor t (.component s.kind.name part t)
  | digits {inner part : Chars} {n : WholeNumeral} (h : shape? t = some (.color, inner))
      (hp : part ∈ components inner) (hr : WholeNumeral.read? part = some n)
      (hn : digitLimit < n.digits.length) : RefusedFor t (.digits n.digits.length)

/-- **A literal is refused for one of the causes listed.** -/
theorem refusedFor_of_read (hr : read t = .error e) : RefusedFor (Chars.trim t) e := by
  cases gives_of_read hr with
  | miscounted h hc hn => exact .count (shape?_eq_some_iff.2 h) (components_eq_iff.2 hc ▸ hn)
  | @refused s inner p before after _ h hc _ _ hp =>
    have hmem : p ∈ components inner := by
      rw [components_eq_iff.2 hc]
      exact List.mem_append_right _ List.mem_cons_self
    cases hp with
    | misformed hp => exact .component (shape?_eq_some_iff.2 h) hmem hp
    | overlong hs hw hn =>
      subst hs
      exact .digits (shape?_eq_some_iff.2 h) hmem (WholeNumeral.read?_eq_some_iff.2 hw) hn

/-- The codes of the causes: those of a format, and none for an overlong channel. -/
theorem RefusedFor.code_mem (h : RefusedFor t e) : e.code ∈ [("E201" : Chars), "E202", ""] := by
  cases h with
  | count => exact .head _
  | component => exact .tail _ (.head _)
  | digits => exact .tail _ (.tail _ (.head _))

/-- **An overlong channel is the one cause that is no error of the script.** -/
theorem RefusedFor.errorClass?_eq (h : RefusedFor t e) :
    e.errorClass? = some .format ∨ e.errorClass? = none ∧ ∃ inner part n,
      shape? t = some (.color, inner) ∧ part ∈ components inner ∧
        WholeNumeral.read? part = some n ∧ digitLimit < n.digits.length ∧
          e = .digits n.digits.length := by
  cases h with
  | count | component => exact .inl rfl
  | digits h hp hr hn => exact .inr ⟨rfl, _, _, _, h, hp, hr, hn, rfl⟩

/-- A color whose first channel cannot be written is one: the text of the channel is a
whole number and has more digits than are read. -/
theorem read_color_of_not_isWritable {r : ℤ} (h : isWritable r = false) (g b : ℤ) :
    read (Value.color r g b).literal =
      .error (.digits (Chars.values (Chars.ofNat r.natAbs)).length) := by
  have hl : ¬(Chars.values (Chars.ofNat r.natAbs)).length ≤ digitLimit := by
    rw [length_values_le_iff, h]
    exact Bool.false_ne_true
  have ht := trim_literal_color r g b
  rw [Value.literal_color] at ht ⊢
  rw [read_of_triple ht (hasShape_color _) (isNumeralText_ofInt r) (isNumeralText_ofInt g)
    (isNumeralText_ofInt b), build, channel, read?_ofInt]
  simp only [if_neg hl]
  rfl

end Literal
end DraftScript
