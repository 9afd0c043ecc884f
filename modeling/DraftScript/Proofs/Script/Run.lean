/-
# How the lines of a script are read

Reading is a run: each line is read with the variables that the lines before it left.
`Reads` says that a run goes through all its lines, `StopsAt` that it ends at one that is
refused, and one of them holds of every script (`reads_or_stopsAt`).  What is left at
the end is what the run says: after its last line (`readLines_of_reads`), or before the
line at which it stops (`read_of_stopsAt`), where only the order of names may differ that
the variables keep.

A run over two lists of lines is a run over the first and, unless it stops there, one
over the second with what the first left (`readLines_append`).
-/

import DraftScript.Proofs.Line.Outcome
import DraftScript.Script

namespace DraftScript

namespace Line

variable {v : Variables} {l : Chars} {line : ℤ}

/-- A line that is refused binds nothing. -/
theorem bindings_read_of_error {e : Refusal} (h : (read v l line).result = .error e) :
    (read v l line).scope.bindings = v.bindings := by
  obtain ⟨b, hb, hg⟩ := exists_gives_of_read h
  rw [hb]
  cases hg <;> rfl

/-- The command of a line has the number of the line. -/
theorem line_of_read {c : Command} (h : (read v l line).result = .ok (some c)) :
    c.line = line := by
  obtain ⟨b, -, hg⟩ := exists_gives_of_read h
  cases hg
  rfl

end Line

/-- What reading gives that goes on where another reading ended, unless that failed. -/
def ScriptOutcome.andThen (o : ScriptOutcome) (next : Variables → ℕ → ScriptOutcome) :
    ScriptOutcome :=
  if o.failure.isSome then o
  else
    let p := next o.scope o.lines
    { p with commands := o.commands ++ p.commands, events := o.events ++ p.events }

namespace Script

variable {filename : Option Chars} {v w : Variables} {n : ℕ} {ls before after : List Chars}
  {l : Chars} {cs : List Command} {cause : Refusal}

/-! ## One line, and the lines after it -/

theorem readLines_cons_of_error
    (h : (Line.read v l (n + 1 : ℕ)).result = .error cause) :
    readLines filename v n (l :: ls) =
      { failure := some ⟨cause, n + 1, Chars.dropEndWhile (· = '\r') l, filename⟩
        commands := [], lines := n + 1, scope := (Line.read v l (n + 1 : ℕ)).scope
        events := (Line.read v l (n + 1 : ℕ)).events } := by
  rw [readLines, h]

theorem readLines_cons_of_ok {c : Option Command}
    (h : (Line.read v l (n + 1 : ℕ)).result = .ok c) :
    readLines filename v n (l :: ls) =
      let rest := readLines filename (Line.read v l (n + 1 : ℕ)).scope (n + 1) ls
      { rest with
        commands := c.toList ++ rest.commands
        events := (Line.read v l (n + 1 : ℕ)).events ++ rest.events } := by
  rw [readLines, h]

/-- **Two lists of lines are read one after the other.** -/
theorem readLines_append (filename : Option Chars) (v : Variables) (n : ℕ)
    (as bs : List Chars) :
    readLines filename v n (as ++ bs) =
      (readLines filename v n as).andThen fun w k => readLines filename w k bs := by
  induction as generalizing v n with
  | nil => simp [readLines, ScriptOutcome.andThen]
  | cons l as ih =>
    cases h : (Line.read v l (n + 1 : ℕ)).result with
    | error cause =>
      rw [List.cons_append, readLines_cons_of_error h, readLines_cons_of_error h]
      rfl
    | ok c =>
      rw [List.cons_append, readLines_cons_of_ok h, readLines_cons_of_ok h, ih]
      dsimp only [ScriptOutcome.andThen]
      split <;> simp [List.append_assoc]

/-! ## Runs -/

/-- Whether lines after the first `n` are all read, each with the variables that the ones
before it left: they give commands, and leave the variables `w`. -/
inductive Reads : Variables → ℕ → List Chars → List Command → Variables → Prop
  | nil (v : Variables) (n : ℕ) : Reads v n [] [] v
  | cons {v w : Variables} {n : ℕ} {l : Chars} {ls : List Chars} {c : Option Command}
      {cs : List Command} (h : (Line.read v l (n + 1 : ℕ)).result = .ok c)
      (hs : Reads (Line.read v l (n + 1 : ℕ)).scope (n + 1) ls cs w) :
      Reads v n (l :: ls) (c.toList ++ cs) w

/-- Whether reading lines from `v` stops at line `n`, counted from one: the lines before
it are read, with commands `cs`, and leave `w`, and the line, `l`, is then refused. -/
structure StopsAt (v : Variables) (ls : List Chars) (n : ℕ) (cs : List Command)
    (w : Variables) (l : Chars) (cause : Refusal) : Prop where
  before : ∃ before after, ls = before ++ l :: after ∧ n = before.length + 1 ∧
    Reads v 0 before cs w
  refused : (Line.read w l n).result = .error cause

/-- Lines are read to their end or up to one that is refused. -/
theorem reads_or_refused (v : Variables) (n : ℕ) (ls : List Chars) :
    (∃ cs w, Reads v n ls cs w) ∨ ∃ before l after cs w cause, ls = before ++ l :: after ∧
      Reads v n before cs w ∧
        (Line.read w l (n + before.length + 1 : ℕ)).result = .error cause := by
  induction ls generalizing v n with
  | nil => exact .inl ⟨[], v, .nil v n⟩
  | cons l ls ih =>
    cases h : (Line.read v l (n + 1 : ℕ)).result with
    | error cause => exact .inr ⟨[], l, ls, [], v, cause, rfl, .nil v n, h⟩
    | ok c =>
      rcases ih (Line.read v l (n + 1 : ℕ)).scope (n + 1) with
        ⟨cs, w, hs⟩ | ⟨before, l', after, cs, w, cause, rfl, hs, he⟩
      · exact .inl ⟨_, w, .cons h hs⟩
      · refine .inr ⟨l :: before, l', after, _, w, cause, rfl, .cons h hs, ?_⟩
        rwa [List.length_cons, ← Nat.add_assoc, Nat.add_right_comm n before.length 1]

/-- **A script is read to its end or stops at a line.** -/
theorem reads_or_stopsAt (v : Variables) (ls : List Chars) :
    (∃ cs w, Reads v 0 ls cs w) ∨ ∃ n cs w l cause, StopsAt v ls n cs w l cause := by
  rcases reads_or_refused v 0 ls with h | ⟨before, l, after, cs, w, cause, hl, hs, he⟩
  · exact .inl h
  · rw [Nat.zero_add] at he
    exact .inr ⟨_, cs, w, l, cause, ⟨before, after, hl, rfl, hs⟩, he⟩

/-! ## What a run leaves -/

/-- A run to the end leaves what its last line left. -/
theorem readLines_of_reads (filename : Option Chars) (h : Reads v n ls cs w) :
    (readLines filename v n ls).failure = none ∧ (readLines filename v n ls).commands = cs ∧
      (readLines filename v n ls).lines = n + ls.length ∧
        (readLines filename v n ls).scope = w := by
  induction h with
  | nil => exact ⟨rfl, rfl, rfl, rfl⟩
  | cons h hs ih =>
    obtain ⟨hf, hc, hl, hw⟩ := ih
    rw [readLines_cons_of_ok h]
    refine ⟨hf, congrArg _ hc, ?_, hw⟩
    rw [List.length_cons, ← Nat.add_assoc, Nat.add_right_comm]
    exact hl

section Read

variable (filename : Option Chars) (v : Variables) (source : Chars)

/-- Reading a script differs from reading its lines in the log only. -/
theorem read_eq : read filename v source =
    { readLines filename v 0 (Chars.lines source) with
      events := (read filename v source).events } := by
  dsimp only [read]
  split <;> rfl

@[simp] theorem failure_read : (read filename v source).failure =
    (readLines filename v 0 (Chars.lines source)).failure := by rw [read_eq]

@[simp] theorem commands_read : (read filename v source).commands =
    (readLines filename v 0 (Chars.lines source)).commands := by rw [read_eq]

@[simp] theorem lines_read : (read filename v source).lines =
    (readLines filename v 0 (Chars.lines source)).lines := by rw [read_eq]

@[simp] theorem scope_read : (read filename v source).scope =
    (readLines filename v 0 (Chars.lines source)).scope := by rw [read_eq]

end Read

/-- **A run that stops leaves what the lines before left,** and tells the line. -/
theorem read_of_stopsAt (filename : Option Chars) {source : Chars}
    (h : StopsAt v (Chars.lines source) n cs w l cause) :
    (read filename v source).failure =
        some ⟨cause, n, Chars.dropEndWhile (· = '\r') l, filename⟩ ∧
      (read filename v source).commands = cs ∧ (read filename v source).lines = n ∧
        (read filename v source).scope.bindings = w.bindings := by
  obtain ⟨⟨before, after, hl, rfl, hs⟩, he⟩ := h
  obtain ⟨hf, hc, hn, hw⟩ := readLines_of_reads filename hs
  rw [Nat.zero_add] at hn
  have hr : readLines filename v 0 (Chars.lines source) =
      (readLines filename v 0 before).andThen fun w k => readLines filename w k (l :: after) := by
    rw [hl, readLines_append]
  rw [ScriptOutcome.andThen, hf, hc, hn, hw, readLines_cons_of_error he] at hr
  simp only [failure_read, commands_read, lines_read, scope_read, hr]
  exact ⟨rfl, List.append_nil cs, rfl, Line.bindings_read_of_error he⟩

/-- A script that does not fail is read to its end. -/
theorem exists_reads {source : Chars} (h : (read filename v source).failure = none) :
    ∃ cs w, Reads v 0 (Chars.lines source) cs w := by
  refine (reads_or_stopsAt v (Chars.lines source)).resolve_right ?_
  rintro ⟨n, cs, w, l, cause, hs⟩
  exact nomatch h.symm.trans (read_of_stopsAt filename hs).1

/-- There is one line at which reading can stop. -/
theorem StopsAt.unique {source : Chars} {n' : ℕ} {cs' : List Command} {w' : Variables}
    {l' : Chars} {cause' : Refusal} (h : StopsAt v (Chars.lines source) n cs w l cause)
    (h' : StopsAt v (Chars.lines source) n' cs' w' l' cause') : n = n' :=
  (read_of_stopsAt none h).2.2.1.symm.trans (read_of_stopsAt none h').2.2.1

end Script
end DraftScript
