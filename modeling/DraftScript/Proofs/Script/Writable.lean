/-
# What is read can be written

A channel of a color is read up to a limit of digits, and the numbers that can be written are
those with so many digits at most.  So every value that a literal gives can be written
(`Literal.isWritable_of_read`), and all that the commands of a script give
(`Script.isWritable_of_mem`): only commands that come from elsewhere may give more.
-/

import DraftScript.Proofs.Line.Order
import DraftScript.Proofs.Literal.Outcome
import DraftScript.Proofs.Resolution.Values
import DraftScript.Proofs.Script.Commands

namespace DraftScript

/-! ## Literals -/

/-- Digits denote a number below the power of ten that has more of them. -/
theorem Chars.IsDigits.ofDigits_lt {d : Chars} {vs : List ℕ} (h : IsDigits d vs) :
    ofDigits vs < 10 ^ vs.length := by
  have hlt : ∀ v ∈ vs, v < 10 := by
    induction h with
    | nil => simp
    | cons hc _ ih => exact List.forall_mem_cons.2 ⟨digitValue_lt hc, ih⟩
  clear h
  induction vs using List.reverseRecOn with
  | nil => exact Nat.one_pos
  | append_singleton vs v ih =>
    rw [List.forall_mem_append, List.forall_mem_singleton] at hlt
    have hvs := ih hlt.1
    rw [ofDigits_concat, List.length_append, List.length_singleton, Nat.pow_succ]
    omega

namespace Literal

/-- A channel that is read can be written. -/
theorem IsChannel.isWritable {p : Chars} {k : ℤ} (h : IsChannel p k) : isWritable k = true := by
  obtain ⟨n, ⟨_, d, -, -, hd, -⟩, hl, rfl⟩ := h
  have habs : n.toInt.natAbs = Chars.ofDigits n.digits := by
    rw [WholeNumeral.toInt]
    split <;> simp
  rw [DraftScript.isWritable, decide_eq_true_eq, habs]
  exact hd.ofDigits_lt.trans_le (Nat.pow_le_pow_right (by decide) hl)

/-- **The value of a literal can be written.** -/
theorem isWritable_of_read {t : Chars} {v : Value} (h : read t = .ok v) :
    v.isWritable = true := by
  cases v with
  | number | text | boolean | point | vector => rfl
  | color r g b =>
    cases gives_of_read h with
    | color _ _ hr hg hb => simp [Value.isWritable, hr.isWritable, hg.isWritable, hb.isWritable]

end Literal

/-! ## Commands -/

namespace Line

variable {v : Variables} {l : Chars} {line : ℤ}

/-- **The command of a line can be written.** -/
theorem isWritable_of_read {c : Command} (h : (read v l line).result = .ok (some c)) :
    c.IsWritable := by
  obtain ⟨b, -, hg⟩ := exists_gives_of_read h
  cases hg with
  | command hd hi hf =>
    refine Assoc.forall_mem_foldl_put (fun p hp => ?_) fun q hq => absurd hq List.not_mem_nil
    obtain ⟨f, -, raw, -, hv⟩ := exists_fieldReads_of_mem hf hp
    exact Literal.isWritable_of_read hv

end Line

namespace Script

variable {filename : Option Chars} {v : Variables} {n : ℕ} {ls : List Chars} {c : Command}

theorem isWritable_of_mem_readLines (h : c ∈ (readLines filename v n ls).commands) :
    c.IsWritable := by
  induction ls generalizing v n with
  | nil => simp [readLines] at h
  | cons l ls ih =>
    cases hl : (Line.read v l (n + 1 : ℕ)).result with
    | error cause => simp [readLines_cons_of_error hl] at h
    | ok c' =>
      rw [readLines_cons_of_ok hl] at h
      rcases List.mem_append.1 h with hc | hc
      · obtain rfl := Option.mem_toList.1 hc
        exact Line.isWritable_of_read hl
      · exact ih hc

/-- **The commands of a script can be written.** -/
theorem isWritable_of_mem {source : Chars} (h : c ∈ (read filename v source).commands) :
    c.IsWritable := by
  rw [commands_read] at h
  exact isWritable_of_mem_readLines h

end Script
end DraftScript
