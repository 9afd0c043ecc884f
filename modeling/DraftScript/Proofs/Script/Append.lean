/-
# Scripts one after the other

Two scripts with a line feed between them are read as the first and then, unless the
first fails, the second with the variables that the first left (`read_append`).  The
second stands further down then, by as many lines as the first has; that moves the numbers
of its commands and of its error, and nothing else (`readLines_add`).

The number of a command is that of its line, so the commands of a script stand in the
order of their numbers, which are those of lines of the script (`pairwise_line_readLines`,
`line_of_mem_readLines`).
-/

import DraftScript.Proofs.Script.Run

namespace DraftScript

/-! ## Further down -/

/-- The command `k` lines further down. -/
def Command.moveDown (k : ℕ) (c : Command) : Command := { c with line := c.line + k }

/-- The error `k` lines further down, if it stands at a line. -/
def ScriptError.moveDown (k : ℕ) (e : ScriptError) : ScriptError :=
  { e with diagnostic := { e.diagnostic with line := e.diagnostic.line.map (· + (k : ℤ)) } }

/-- The failure `k` lines further down. -/
def ScriptFailure.moveDown (k : ℕ) (f : ScriptFailure) : ScriptFailure :=
  { f with line := f.line + k }

/-- What reading gives, `k` lines further down. -/
def ScriptOutcome.moveDown (k : ℕ) (o : ScriptOutcome) : ScriptOutcome :=
  { o with
    failure := o.failure.map (·.moveDown k)
    commands := o.commands.map (·.moveDown k)
    lines := o.lines + k }

/-- The error of a failure further down is its error further down. -/
theorem ScriptFailure.error?_moveDown (k : ℕ) (f : ScriptFailure) :
    (f.moveDown k).error? = f.error?.map (·.moveDown k) := by
  cases h : f.cause.errorClass? with
  | none => simp [error?, moveDown, Refusal.error?, h]
  | some c =>
    simp [error?, moveDown, Refusal.error?, h, ScriptError.located, Diagnostic.located,
      ScriptError.moveDown, Refusal.diagnostic]

theorem ScriptOutcome.error?_moveDown (k : ℕ) (o : ScriptOutcome) :
    (o.moveDown k).error? = o.error?.map (·.moveDown k) := by
  cases h : o.failure with
  | none => simp [error?, moveDown, h]
  | some f => simp [error?, moveDown, h, f.error?_moveDown k]

namespace Line

variable (v : Variables) (l : Chars) (line : ℤ) (k : ℕ)

/-- **The number of a line is seen in its command only.** -/
theorem read_add : read v l (line + k) =
    { read v l line with
      result := (read v l line).result.map (Option.map (Command.moveDown k)) } := by
  unfold read
  dsimp only
  cases LineForm.of (Chars.trim l) with
  | nothing => rfl
  | unknown => rfl
  | declaration body =>
    dsimp only [readDeclaration]
    split
    · rfl
    · split
      · rfl
      · split <;> rfl
  | invocation name arguments =>
    dsimp only [readInvocation]
    split <;> rfl

end Line

namespace Script

variable (filename : Option Chars) (v : Variables) (n : ℕ) (ls : List Chars)

/-- **Lines further down are read the same,** but for their numbers. -/
theorem readLines_add (k : ℕ) :
    readLines filename v (n + k) ls = (readLines filename v n ls).moveDown k := by
  induction ls generalizing v n with
  | nil => rfl
  | cons l ls ih =>
    have hn : n + k + 1 = n + 1 + k := Nat.add_right_comm n k 1
    have hl := Line.read_add v l (n + 1 : ℕ) k
    rw [← Int.natCast_add, ← hn] at hl
    cases h : (Line.read v l (n + 1 : ℕ)).result with
    | error cause =>
      have h' : (Line.read v l (n + k + 1 : ℕ)).result = .error cause := by rw [hl, h]; rfl
      rw [readLines_cons_of_error h, readLines_cons_of_error h', hl]
      simp [ScriptOutcome.moveDown, ScriptFailure.moveDown, hn]
    | ok c =>
      have h' : (Line.read v l (n + k + 1 : ℕ)).result = .ok (c.map (Command.moveDown k)) := by
        rw [hl, h]; rfl
      rw [readLines_cons_of_ok h, readLines_cons_of_ok h', hl, hn, ih]
      cases c <;> simp [ScriptOutcome.moveDown]

/-- The commands of lines have the numbers of lines. -/
theorem line_of_mem_readLines {c : Command} (h : c ∈ (readLines filename v n ls).commands) :
    n < c.line ∧ c.line ≤ n + ls.length := by
  induction ls generalizing v n with
  | nil => simp [readLines] at h
  | cons l ls ih =>
    rw [List.length_cons]
    cases hl : (Line.read v l (n + 1 : ℕ)).result with
    | error cause => simp [readLines_cons_of_error hl] at h
    | ok c' =>
      rw [readLines_cons_of_ok hl] at h
      rcases List.mem_append.1 h with hc | hc
      · have hn := Line.line_of_read (hl.trans (congrArg _ (Option.mem_toList.1 hc)))
        omega
      · have hn := ih _ _ hc
        omega

/-- **The commands of lines stand in the order of their numbers.** -/
theorem pairwise_line_readLines :
    ((readLines filename v n ls).commands.map Command.line).Pairwise (· < ·) := by
  induction ls generalizing v n with
  | nil => exact .nil
  | cons l ls ih =>
    cases h : (Line.read v l (n + 1 : ℕ)).result with
    | error cause =>
      rw [readLines_cons_of_error h]
      exact .nil
    | ok c =>
      rw [readLines_cons_of_ok h]
      cases c with
      | none => exact ih _ _
      | some c =>
        refine List.pairwise_cons.2 ⟨fun m hm => ?_, ih _ _⟩
        obtain ⟨d, hd, rfl⟩ := List.mem_map.1 hm
        have hc := Line.line_of_read h
        have hn := line_of_mem_readLines filename _ _ ls hd
        omega

/-! ## Two scripts -/

variable {a b : Chars}

/-- A script that fails is not read further. -/
theorem readLines_append_of_failure {f : ScriptFailure}
    (h : (read filename v a).failure = some f) :
    readLines filename v 0 (Chars.lines (a ++ '\n' :: b)) =
      readLines filename v 0 (Chars.lines a) := by
  rw [failure_read] at h
  rw [Chars.lines, Chars.splitOn_append_cons, readLines_append, ScriptOutcome.andThen,
    ← Chars.lines, h]
  rfl

/-- Behind a script that does not fail the next one is read. -/
theorem readLines_append_of_reads {w : Variables} {cs : List Command}
    (h : Reads v 0 (Chars.lines a) cs w) :
    let o := readLines filename v 0 (Chars.lines (a ++ '\n' :: b))
    let p := (readLines filename w 0 (Chars.lines b)).moveDown (Chars.lines a).length
    o.failure = p.failure ∧ o.commands = cs ++ p.commands ∧ o.scope = p.scope := by
  obtain ⟨hf, hc, hn, hw⟩ := readLines_of_reads filename h
  rw [← readLines_add, Chars.lines, Chars.splitOn_append_cons, readLines_append, ← Chars.lines,
    ← Chars.lines, ScriptOutcome.andThen, hf, hc, hn, hw]
  exact ⟨rfl, rfl, rfl⟩

/-- **Two scripts with a line feed between them are read one after the other.** If the first
fails, they fail with it and leave what it left; else they give its commands and then those
of the second, with the variables that it left, and fail with the second, everything moved
down by the lines of the first.  So the commands of a script have the numbers of lines of
it, in increasing order. -/
theorem read_append (filename : Option Chars) (v : Variables) :
    (∀ a b : Chars,
      let first := read filename v a
      let second := read filename first.scope b
      let whole := read filename v (a ++ '\n' :: b)
      let k := (Chars.lines a).length
      (∀ f, first.failure = some f →
        whole.failure = some f ∧ whole.error? = first.error? ∧ whole.scope = first.scope) ∧
      (first.failure = none →
        whole.failure = second.failure.map (·.moveDown k) ∧
        whole.error? = second.error?.map (·.moveDown k) ∧
        whole.commands = first.commands ++ second.commands.map (·.moveDown k) ∧
        whole.scope = second.scope)) ∧
    ∀ source, ((read filename v source).commands.map Command.line).Pairwise (· < ·) ∧
      ∀ c ∈ (read filename v source).commands, 1 ≤ c.line ∧
        c.line ≤ (Chars.lines source).length := by
  refine ⟨fun a b => ⟨fun f hf => ?_, fun hf => ?_⟩, fun source => ?_⟩
  · have hr := readLines_append_of_failure filename v (b := b) hf
    have hw : (read filename v (a ++ '\n' :: b)).failure = (read filename v a).failure := by
      rw [failure_read, hr, failure_read]
    refine ⟨hw.trans hf, ?_, ?_⟩
    · rw [ScriptOutcome.error?, ScriptOutcome.error?, hw]
    · rw [scope_read, hr, scope_read]
  · obtain ⟨cs, w, hs⟩ := exists_reads hf
    obtain ⟨-, hc, -, hw⟩ := readLines_of_reads filename hs
    obtain ⟨hwhole, hcs, hsc⟩ := readLines_append_of_reads filename v (b := b) hs
    rw [← commands_read] at hc
    rw [← scope_read] at hw
    rw [hw, hc]
    have he : (read filename v (a ++ '\n' :: b)).error? =
        ((read filename w b).moveDown (Chars.lines a).length).error? := by
      simp only [ScriptOutcome.error?, failure_read, hwhole, ScriptOutcome.moveDown]
    refine ⟨?_, he.trans (ScriptOutcome.error?_moveDown ..), ?_, ?_⟩
    · rw [failure_read, hwhole, failure_read]
      rfl
    · rw [commands_read, hcs, commands_read]
      rfl
    · rw [scope_read, hsc, scope_read]
      rfl
  · rw [commands_read]
    refine ⟨pairwise_line_readLines .., fun c hc => ?_⟩
    have hn := line_of_mem_readLines filename v 0 (Chars.lines source) hc
    omega

/-- A variable that the first script binds is refused as a number in the second one, whose
second line is the fourth of both. -/
theorem read_append_refused :
    let a : Chars := "VAR p = [1,2]\nA(n=3)"
    let b : Chars := "// next\nB(at=$p)"
    (read none {} a).failure = none ∧
      (read none {} (a ++ '\n' :: b)).error?.map (·.diagnostic.line) = some (some 4) := by
  intro a b
  have hf : (read none {} a).failure = none := by decide +kernel
  refine ⟨hf, ?_⟩
  rw [(((read_append none {}).1 a b).2 hf).2.1]
  decide +kernel

end Script
end DraftScript
