/-
# Where the commands of a script come from

A command comes from the line that has its number, and its type is the name which that line
invokes, in capitals (`invocation_of_mem_readLines`).  Names in capitals are names again, so
a type holds letters, digits and underscores only (`isName_map_toUpper`).
-/

import DraftScript.Proofs.Script.Run
import Mathlib.Tactic.Ring

namespace DraftScript

/-! ## Names in capitals -/

/-- The capitals of the characters of names are such characters, and capitals. -/
theorem toUpper_of_isNameChar {c : Char} (h : isNameChar c = true) :
    isNameChar c.toUpper = true ∧ (isNameStart c = true → isNameStart c.toUpper = true) ∧
      c.toUpper.toUpper = c.toUpper := by
  have hall : ∀ n < 123, isNameChar (.ofNat n) = true →
      isNameChar (Char.ofNat n).toUpper = true ∧
        (isNameStart (.ofNat n) = true → isNameStart (Char.ofNat n).toUpper = true) ∧
        (Char.ofNat n).toUpper.toUpper = (Char.ofNat n).toUpper := by decide
  have hc := LineForm.toNat_of_isNameChar h
  have := hall c.toNat (by omega)
  rw [Char.ofNat_toNat] at this
  exact this h

/-- A name in capitals is a name. -/
theorem isName_map_toUpper {n : Chars} (h : isName n = true) :
    isName (n.map Char.toUpper) = true := by
  have hc := LineForm.isNameChar_of_mem_isName h
  cases n with
  | nil => exact h
  | cons c r =>
    rw [isName, Bool.and_eq_true, List.all_eq_true] at h
    rw [List.map_cons, isName, List.all_map, Bool.and_eq_true, List.all_eq_true]
    exact ⟨(toUpper_of_isNameChar (hc c List.mem_cons_self)).2.1 h.1,
      fun d hd => (toUpper_of_isNameChar (h.2 d hd)).1⟩

theorem map_toUpper_map_toUpper {n : Chars} (h : isName n = true) :
    (n.map Char.toUpper).map Char.toUpper = n.map Char.toUpper := by
  rw [List.map_map]
  exact List.map_congr_left fun c hc =>
    (toUpper_of_isNameChar (LineForm.isNameChar_of_mem_isName h c hc)).2.2

/-! ## Where commands come from -/

namespace Script

variable {filename : Option Chars} {v : Variables} {n : ℕ} {ls : List Chars} {c : Command}

/-- A command of lines comes from the line of its number, which invokes its type. -/
theorem invocation_of_mem_readLines (h : c ∈ (readLines filename v n ls).commands) :
    ∃ (i : ℕ) (l name arguments : Chars), ls[i]? = some l ∧ c.line = n + i + 1 ∧
      LineForm.IsInvocation (Chars.trim l) name arguments ∧ c.type = name.map Char.toUpper := by
  induction ls generalizing v n with
  | nil => simp [readLines] at h
  | cons l ls ih =>
    cases hl : (Line.read v l (n + 1 : ℕ)).result with
    | error cause => simp [readLines_cons_of_error hl] at h
    | ok c' =>
      rw [readLines_cons_of_ok hl] at h
      rcases List.mem_append.1 h with hc | hc
      · obtain rfl := Option.mem_toList.1 hc
        obtain ⟨b, -, hg⟩ := Line.exists_gives_of_read hl
        cases hg with
        | command hd hi hf => exact ⟨0, l, _, _, rfl, by simp, hi, rfl⟩
      · obtain ⟨i, k, name, arguments, hk, hn, hi⟩ := ih hc
        exact ⟨i + 1, k, name, arguments, hk, by rw [hn]; push_cast; ring, hi⟩

end Script
end DraftScript
