/-
# Trimmed texts

A text is trimmed when neither its first nor its last character is blank
(`trim_eq_self_iff`).  Trimming gives such a text, loses only blank characters, and does
not see the blanks that stand around a text (`trim_trim`, `exists_eq_append_trim_append`,
`trim_append_of_blank`).
-/

import DraftScript.Chars.Basic
import Mathlib.Data.List.DropRight
import Mathlib.Data.List.TakeWhile

namespace DraftScript
namespace Chars

variable {p : Char → Bool} {t a b : Chars}

/-! ## Endings in a class -/

theorem dropEndWhile_eq_rdropWhile (p : Char → Bool) (t : Chars) :
    dropEndWhile p t = t.rdropWhile p := rfl

/-- What is dropped at the end is all in the class. -/
theorem exists_eq_dropEndWhile_append (p : Char → Bool) (t : Chars) :
    ∃ r, t = dropEndWhile p t ++ r ∧ ∀ c ∈ r, p c = true := by
  refine ⟨(t.reverse.takeWhile p).reverse, ?_, fun c hc => ?_⟩
  · rw [dropEndWhile, ← List.reverse_append, List.takeWhile_append_dropWhile, List.reverse_reverse]
  · exact List.mem_takeWhile_imp (List.mem_reverse.1 hc)

theorem dropEndWhile_append (hb : ∀ c ∈ b, p c = true) :
    dropEndWhile p (a ++ b) = dropEndWhile p a := by
  rw [dropEndWhile, List.reverse_append,
    List.dropWhile_append_of_pos fun c hc => hb c (List.mem_reverse.1 hc), dropEndWhile]

theorem dropEndWhile_eq_self (h : ∀ c ∈ t.getLast?, p c = false) : dropEndWhile p t = t := by
  rw [dropEndWhile_eq_rdropWhile, List.rdropWhile_eq_self_iff]
  intro hl
  simp [h _ (List.getLast?_eq_getLast_of_ne_nil hl)]

/-! ## Trimming -/

/-- Trimming loses blank characters only. -/
theorem exists_eq_append_trim_append (t : Chars) :
    ∃ a b, t = a ++ trim t ++ b ∧ (∀ c ∈ a, isBlank c = true) ∧ ∀ c ∈ b, isBlank c = true := by
  obtain ⟨b, hb, hb'⟩ := exists_eq_dropEndWhile_append isBlank (t.dropWhile isBlank)
  refine ⟨t.takeWhile isBlank, b, ?_, fun c hc => List.mem_takeWhile_imp hc, hb'⟩
  rw [List.append_assoc, trim, ← hb, List.takeWhile_append_dropWhile]

theorem mem_of_mem_trim {c : Char} (h : c ∈ trim t) : c ∈ t := by
  obtain ⟨a, b, ht, -⟩ := exists_eq_append_trim_append t
  rw [ht]
  exact List.mem_append_left _ (List.mem_append_right _ h)

/-- The first character of a trimmed text is not blank. -/
theorem isBlank_of_mem_head?_trim {c : Char} (h : c ∈ (trim t).head?) : isBlank c = false := by
  have hp : trim t <+: t.dropWhile isBlank := List.rdropWhile_prefix isBlank _
  obtain ⟨r, hr⟩ := hp
  have hc : (t.dropWhile isBlank).head? = some c := by
    rw [← hr, List.head?_append, Option.mem_def.1 h]
    rfl
  have := List.head?_dropWhile_not isBlank t
  rw [hc] at this
  simpa using this

/-- The last character of a trimmed text is not blank. -/
theorem isBlank_of_mem_getLast?_trim {c : Char} (h : c ∈ (trim t).getLast?) :
    isBlank c = false := by
  have hne : trim t ≠ [] := by
    rintro h₀
    simp [h₀] at h
  have hl := List.rdropWhile_last_not isBlank (t.dropWhile isBlank) hne
  have hc : (trim t).getLast hne = c := by
    rw [List.getLast?_eq_getLast_of_ne_nil hne] at h
    exact Option.some.inj h
  rw [← hc]
  exact Bool.eq_false_iff.2 hl

/-- **A text is trimmed when neither end of it is blank.** -/
theorem trim_eq_self_iff :
    trim t = t ↔ (∀ c ∈ t.head?, isBlank c = false) ∧ ∀ c ∈ t.getLast?, isBlank c = false := by
  constructor
  · intro h
    rw [← h]
    exact ⟨fun c hc => isBlank_of_mem_head?_trim hc, fun c hc => isBlank_of_mem_getLast?_trim hc⟩
  · rintro ⟨hh, hl⟩
    have hd : t.dropWhile isBlank = t := by
      cases t with
      | nil => rfl
      | cons c r => rw [List.dropWhile_cons_of_neg (by simp [hh c (by simp)])]
    rw [trim, hd, dropEndWhile_eq_self hl]

theorem trim_eq_self (h : ∀ c ∈ t, isBlank c = false) : trim t = t :=
  trim_eq_self_iff.2
    ⟨fun c hc => h c (List.mem_of_mem_head? hc), fun c hc => h c (List.mem_of_getLast? hc)⟩

theorem trim_trim (t : Chars) : trim (trim t) = trim t :=
  trim_eq_self_iff.2
    ⟨fun _ hc => isBlank_of_mem_head?_trim hc, fun _ hc => isBlank_of_mem_getLast?_trim hc⟩

/-- **Blanks around a text are not seen.** -/
theorem trim_append_of_blank (ha : ∀ c ∈ a, isBlank c = true) (hb : ∀ c ∈ b, isBlank c = true) :
    trim (a ++ t ++ b) = trim t := by
  rw [trim, List.append_assoc, List.dropWhile_append_of_pos ha, List.dropWhile_append]
  split
  · next h =>
    rw [List.isEmpty_iff] at h
    have hb' : b.dropWhile isBlank = [] := List.dropWhile_eq_nil_iff.2 hb
    rw [hb', trim, h]
  · rw [dropEndWhile_append hb, trim]

theorem isBlank_of_mem_space : ∀ c ∈ [' '], isBlank c = true :=
  List.forall_mem_singleton.2 (by decide)

theorem trim_space (t : Chars) : trim (' ' :: t) = trim t := by
  have := trim_append_of_blank (t := t) (a := [' ']) (b := []) isBlank_of_mem_space (by simp)
  rwa [List.append_nil] at this

/-- A text between two characters that are not blank is trimmed. -/
theorem trim_cons_concat {c d : Char} (hc : isBlank c = false) (hd : isBlank d = false) :
    trim (c :: (t ++ [d])) = c :: (t ++ [d]) := by
  refine trim_eq_self_iff.2 ⟨?_, ?_⟩
  · simpa using hc
  · rw [← List.cons_append, List.getLast?_concat]
    simpa using hd

/-- Two trimmed texts are trimmed with a character between them that is not blank. -/
theorem trim_append_cons {c : Char} (hne : a ≠ []) (ha : trim a = a) (hb : trim b = b)
    (hc : isBlank c = false) : trim (a ++ c :: b) = a ++ c :: b := by
  refine trim_eq_self_iff.2 ⟨fun d hd => ?_, fun d hd => ?_⟩
  · rw [List.head?_append_of_ne_nil a hne] at hd
    exact (trim_eq_self_iff.1 ha).1 d hd
  · rw [List.getLast?_append_cons, List.getLast?_cons] at hd
    cases hl : b.getLast? with
    | none =>
      obtain rfl : c = d := by simpa [hl] using hd
      exact hc
    | some e =>
      obtain rfl : e = d := by simpa [hl] using hd
      exact (trim_eq_self_iff.1 hb).2 e hl

end Chars
end DraftScript
