/-
# Carriage returns at the ends of lines

Scripts that come from other systems have a carriage return before every line feed, so that
each of their lines but the last ends with one.  A line is read trimmed, and a carriage return
is blank; the error at a line keeps the line, but without the carriage returns at its end.  So
neither reading a line nor locating its error sees them, however many there are, and the whole
outcome is the same: commands, variables, failure and log (`read_withReturns`).
-/

import DraftScript.Proofs.Chars.Split
import DraftScript.Proofs.Chars.Trim
import DraftScript.Script
import Mathlib.Data.List.Forall2

namespace DraftScript

namespace Chars

/-- A text with a carriage return before every line feed. -/
def withReturns (t : Chars) : Chars := t.flatMap fun c => if c = '\n' then ['\r', '\n'] else [c]

/-- Whether a line is another one with carriage returns behind it. -/
def AddsReturns (l m : Chars) : Prop := ∃ k, l = m ++ List.replicate k '\r'

variable {l m : Chars}

theorem AddsReturns.cons (h : AddsReturns l m) (c : Char) : AddsReturns (c :: l) (c :: m) := by
  obtain ⟨k, rfl⟩ := h
  exact ⟨k, rfl⟩

/-- Carriage returns behind a line are trimmed off. -/
theorem AddsReturns.trim_eq (h : AddsReturns l m) : trim l = trim m := by
  obtain ⟨k, rfl⟩ := h
  have hr : ∀ c ∈ List.replicate k '\r', isBlank c = true := fun c hc => by
    rw [List.eq_of_mem_replicate hc]
    decide
  exact trim_append_of_blank (a := []) (by simp) hr

theorem AddsReturns.dropEndWhile_eq (h : AddsReturns l m) :
    dropEndWhile (· = '\r') l = dropEndWhile (· = '\r') m := by
  obtain ⟨k, rfl⟩ := h
  exact dropEndWhile_append fun c hc => by simpa using List.eq_of_mem_replicate hc

/-- The first line of a text goes on with a character that is no line feed. -/
theorem exists_lines_cons {c : Char} (hc : c ≠ '\n') (t : Chars) :
    ∃ l ls, lines t = l :: ls ∧ lines (c :: t) = (c :: l) :: ls := by
  obtain ⟨l, ls, hl⟩ := List.exists_cons_of_ne_nil (lines_ne_nil t)
  refine ⟨l, ls, hl, ?_⟩
  rw [lines] at hl ⊢
  rw [splitOn, if_neg hc, hl]

/-- **Carriage returns before the line feeds stand behind the lines.** -/
theorem forall₂_lines_withReturns (t : Chars) :
    List.Forall₂ AddsReturns (lines (withReturns t)) (lines t) := by
  induction t with
  | nil => exact .cons ⟨0, rfl⟩ .nil
  | cons c t ih =>
    by_cases hc : c = '\n'
    · have hl : lines (withReturns (c :: t)) = ['\r'] :: lines (withReturns t) := by
        subst hc
        exact splitOn_append (a := ['\r']) (by decide)
      have hr : lines (c :: t) = [] :: lines t := by rw [lines, splitOn, if_pos hc, lines]
      rw [hl, hr]
      exact .cons ⟨1, rfl⟩ ih
    · have hw : withReturns (c :: t) = c :: withReturns t := by simp [withReturns, hc]
      obtain ⟨l, ls, hl, hcl⟩ := exists_lines_cons hc (withReturns t)
      obtain ⟨m, ms, hm, hcm⟩ := exists_lines_cons hc t
      rw [hl, hm, List.forall₂_cons] at ih
      rw [hw, hcl, hcm]
      exact .cons (ih.1.cons c) ih.2

end Chars

/-- **A line is read without the carriage returns behind it.** -/
theorem Line.read_of_addsReturns {l m : Chars} (h : Chars.AddsReturns l m) (v : Variables)
    (line : ℤ) : read v l line = read v m line := by
  rw [read, read, h.trim_eq]

namespace Script

/-- Lines are read without the carriage returns behind them, and so located. -/
theorem readLines_of_addsReturns {ls ms : List Chars} (h : List.Forall₂ Chars.AddsReturns ls ms)
    (filename : Option Chars) (v : Variables) (n : ℕ) :
    readLines filename v n ls = readLines filename v n ms := by
  induction h generalizing v n with
  | nil => rfl
  | cons hl _ ih =>
    rw [readLines, readLines, Line.read_of_addsReturns hl, hl.dropEndWhile_eq]
    simp only [ih]

/-- **Carriage returns before the line feeds of a script change nothing.**  It gives the same
commands with the same numbers and leaves the same variables, or fails at the same line with the
same error, which shows the same text of the line. -/
theorem read_withReturns (filename : Option Chars) (v : Variables) (source : Chars) :
    read filename v (Chars.withReturns source) = read filename v source := by
  have h := readLines_of_addsReturns (Chars.forall₂_lines_withReturns source) filename v 0
  rw [read, read, h]

end Script
end DraftScript
