/-
# Values that equal themselves

Numbers are compared as numbers, and `nan` differs from all, itself among them.  No numeral
stands for it: what a numeral denotes is rounded to a number or to an infinity.  So every
value that is read equals itself (`Literal.same_self_of_read`).
-/

import DraftScript.Proofs.Literal.Outcome

namespace DraftScript

namespace Binary64

theorem same_self {x : Binary64} (h : x ≠ .nan) : x.same x = true := by
  cases x with
  | nan => exact absurd rfl h
  | infinity s => simp [same]
  | finite s m e hc => simp [same]

theorem ofPair_ne_nan (s : Bool) (m : Nat) (e : Int) : ofPair s m e ≠ .nan := by
  rw [ofPair]
  split
  · simp
  · simp

/-- Rounding gives a number or an infinity. -/
theorem round_ne_nan (s : Bool) (q : Rat) : round s q ≠ .nan := by
  rw [round]
  split
  · simp [zero]
  · dsimp only
    split
    · exact ofPair_ne_nan _ _ _
    · exact ofPair_ne_nan _ _ _

end Binary64

theorem Numeral.same_self_toBinary64 (n : Numeral) : n.toBinary64.same n.toBinary64 = true := by
  rw [toBinary64_eq_round]
  exact Binary64.same_self (Binary64.round_ne_nan _ _)

namespace Literal

variable {t p : Chars} {v : Value}

theorem IsCoordinate.same_self {x : Binary64} (h : IsCoordinate p x) : x.same x = true := by
  obtain ⟨n, -, rfl⟩ := h
  exact n.same_self_toBinary64

/-- **A value that is read equals itself.** -/
theorem same_self_of_read (h : read t = .ok v) : v.same v = true := by
  cases gives_of_read h with
  | point _ _ hx hy hz | vector _ _ hx hy hz =>
    simp [Value.same, hx.same_self, hy.same_self, hz.same_self]
  | color | quoted | truth | text => simp [Value.same]
  | @number n => exact n.same_self_toBinary64

end Literal

end DraftScript
