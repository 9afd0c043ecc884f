/-
# Variables written down as declarations

What scripts bind is of a form that declarations can hold: a name is bound once, and its text
is trimmed, not empty, and on one line (`Variables.Declared`).  A line binds nothing else
(`Declared.read`), so this holds of the variables after any scripts, whether they were read
to their ends or refused (`declared_afterScripts`).

Bindings of this form can be written down as a script again, one line for each:

    VAR name = text

Whatever stands in the text, the first equals sign of the line is the one behind the name,
since a name holds none, and what stands behind it, trimmed, is the text.  So each line binds
what it was made of (`read_declarationLine`), and the script leaves the bindings that it was
made of, in their order (`afterScripts_read_back`).
-/

import DraftScript.Proofs.Script.Run

namespace DraftScript
namespace Variables

/-- Whether a declaration can bind a name to a text. -/
structure IsDeclarable (b : Chars × Chars) : Prop where
  isName : isName b.1 = true
  ne_nil : b.2 ≠ []
  trim_eq : Chars.trim b.2 = b.2
  oneLine : '\n' ∉ b.2

/-- Whether declarations can have made bindings: each name is bound once, to a text that a
declaration can hold. -/
structure Declared (bs : Assoc Chars Chars) : Prop where
  nodup : bs.keys.Nodup
  isDeclarable : ∀ b ∈ bs, IsDeclarable b

/-- The variables after scripts, each with the name of its file, one after another. -/
def afterScripts (scripts : List (Option Chars × Chars)) : Variables :=
  scripts.foldl (fun v s => (Script.read s.1 v s.2).scope) .empty

/-! ## What scripts bind -/

section Declared

variable {v : Variables} {l : Chars} {ls : List Chars}

theorem declared_empty : Declared Variables.empty.bindings :=
  ⟨List.nodup_nil, fun _ hb => absurd hb List.not_mem_nil⟩

/-- **A line binds what a declaration can hold,** or nothing. -/
theorem Declared.read (h : Declared v.bindings) (hl : '\n' ∉ l) (line : ℤ) :
    Declared (Line.read v l line).scope.bindings := by
  obtain ⟨r, bs, hg⟩ := Line.exists_gives v line (Chars.trim l)
  rw [hg.read_eq.2]
  cases hg with
  | nothing | misdeclared | command | refused | unknown => exact h
  | @declared body a b hd hb ha hn hx =>
    have hlb : '\n' ∉ Chars.trim b := by
      refine fun hm => hl (Chars.mem_of_mem_trim ?_)
      rw [hd.1, hb]
      exact List.mem_append_right _ (List.mem_append_right _
        (List.mem_cons_of_mem _ (Chars.mem_of_mem_trim hm)))
    exact ⟨Assoc.nodup_keys_put h.nodup _ _,
      Assoc.forall_mem_put ⟨hn, hx, Chars.trim_trim b, hlb⟩ h.isDeclarable⟩

theorem Declared.readLines (h : Declared v.bindings) (hls : ∀ l ∈ ls, '\n' ∉ l)
    (filename : Option Chars) (n : ℕ) :
    Declared (Script.readLines filename v n ls).scope.bindings := by
  induction ls generalizing v n with
  | nil => exact h
  | cons l ls ih =>
    obtain ⟨hl, hls⟩ := List.forall_mem_cons.1 hls
    have hv := h.read hl (n + 1 : ℕ)
    cases hr : (Line.read v l (n + 1 : ℕ)).result with
    | error cause => rwa [Script.readLines_cons_of_error hr]
    | ok c =>
      rw [Script.readLines_cons_of_ok hr]
      exact ih hv hls (n + 1)

theorem Declared.readScript (h : Declared v.bindings) (filename : Option Chars)
    (source : Chars) : Declared (Script.read filename v source).scope.bindings := by
  rw [Script.scope_read]
  exact h.readLines (fun l hl => Chars.not_mem_of_mem_lines hl) filename 0

/-- **Scripts bind what declarations can hold,** also those that are refused. -/
theorem declared_afterScripts (scripts : List (Option Chars × Chars)) :
    Declared (afterScripts scripts).bindings := by
  -- The induction is on the latest script, which reads with what the others left.
  induction scripts using List.reverseRecOn with
  | nil => exact declared_empty
  | append_singleton scripts s ih =>
    rw [afterScripts, List.foldl_append]
    exact ih.readScript s.1 s.2

end Declared

/-! ## Declarations of bindings -/

/-- The declaration of a binding. -/
def declarationLine (b : Chars × Chars) : Chars := "VAR " ++ b.1 ++ " = " ++ b.2

/-- The script that declares bindings, a line for each. -/
def declarationScript (bs : Assoc Chars Chars) : Chars := Chars.unlines (bs.map declarationLine)

theorem declarationLine_eq (b : Chars × Chars) :
    declarationLine b = "VAR ".toList ++ b.1 ++ " = ".toList ++ b.2 := rfl

namespace IsDeclarable

variable {b : Chars × Chars} (h : IsDeclarable b)
include h

theorem trim_declarationLine : Chars.trim (declarationLine b) = declarationLine b := by
  refine Chars.trim_eq_self_iff.2 ⟨fun c hc => ?_, ?_⟩
  · obtain rfl : 'V' = c := Option.some.inj hc
    decide
  · rw [declarationLine_eq, List.getLast?_append_of_ne_nil _ h.ne_nil]
    exact (Chars.trim_eq_self_iff.1 h.trim_eq).2

theorem not_mem_declarationLine : '\n' ∉ declarationLine b := by
  have hn := not_mem_of_isName (d := '\n') h.isName (by decide)
  simp [declarationLine_eq, hn, h.oneLine]

/-- **A declaration binds the name to the text,** whatever else the text may hold. -/
theorem read_declarationLine (v : Variables) (line : ℤ) :
    (Line.read v (declarationLine b) line).result = .ok none ∧
      (Line.read v (declarationLine b) line).scope.bindings = v.bindings.put b.1 b.2 := by
  have hd : LineForm.IsDeclaration (Chars.trim (declarationLine b))
      (' ' :: (b.1 ++ [' ']) ++ '=' :: ' ' :: b.2) := by
    rw [h.trim_declarationLine]
    exact ⟨by simp [declarationLine_eq], _, _, rfl, rfl⟩
  have ha : '=' ∉ ' ' :: (b.1 ++ [' ']) := by
    simp [not_mem_of_isName (d := '=') h.isName (by decide)]
  have hname : Chars.trim (' ' :: (b.1 ++ [' '])) = b.1 :=
    (Chars.trim_append_of_blank Chars.isBlank_of_mem_space Chars.isBlank_of_mem_space).trans
      (trim_of_isName h.isName)
  have htext : Chars.trim (' ' :: b.2) = b.2 := (Chars.trim_space b.2).trans h.trim_eq
  have hn : DraftScript.isName (Chars.trim (' ' :: (b.1 ++ [' ']))) = true := by
    rw [hname]
    exact h.isName
  have hx : Chars.trim (' ' :: b.2) ≠ [] := by
    rw [htext]
    exact h.ne_nil
  have hg : Line.Gives v line _ _ _ := .declared hd rfl ha hn hx
  rw [hname, htext] at hg
  exact hg.read_eq

end IsDeclarable

variable {bs : Assoc Chars Chars}

/-- Declarations are read to their end, and put their bindings behind those that are there. -/
theorem exists_reads_declarationLines (h : ∀ b ∈ bs, IsDeclarable b) (v : Variables) (n : ℕ) :
    ∃ w, Script.Reads v n (bs.map declarationLine) [] w ∧
      w.bindings = bs.foldl (fun a b => a.put b.1 b.2) v.bindings := by
  induction bs generalizing v n with
  | nil => exact ⟨v, .nil v n, rfl⟩
  | cons b bs ih =>
    obtain ⟨hb, hbs⟩ := List.forall_mem_cons.1 h
    obtain ⟨hr, hs⟩ := hb.read_declarationLine v (n + 1 : ℕ)
    obtain ⟨w, hw, hws⟩ := ih hbs (Line.read v (declarationLine b) (n + 1 : ℕ)).scope (n + 1)
    exact ⟨w, .cons hr hw, by rw [hws, hs, List.foldl_cons]⟩

/-- The lines of the script are the declarations; without any there is an empty line. -/
theorem lines_declarationScript (h : ∀ b ∈ bs, IsDeclarable b) :
    Chars.lines (declarationScript bs) = if bs = [] then [[]] else bs.map declarationLine := by
  split
  · next hbs =>
    rw [hbs]
    rfl
  · next hbs =>
    have hl : ∀ b ∈ bs, Chars.lines (declarationLine b) = [declarationLine b] := fun b hb =>
      Chars.lines_of_not_mem (h b hb).not_mem_declarationLine
    rw [declarationScript, Chars.lines_unlines (mt List.map_eq_nil_iff.1 hbs), List.flatMap_map,
      List.flatMap_congr hl, List.map_eq_flatMap]

/-- The script is read to its end, and gives the bindings back. -/
theorem Declared.exists_reads (h : Declared bs) : ∃ w,
    Script.Reads .empty 0 (Chars.lines (declarationScript bs)) [] w ∧ w.bindings = bs := by
  rw [lines_declarationScript h.isDeclarable]
  split
  · next hbs =>
    have hr : (Line.read .empty [] (0 + 1 : ℕ)).result = .ok none := rfl
    exact ⟨_, .cons hr (.nil _ _), hbs.symm⟩
  · obtain ⟨w, hw, hws⟩ := exists_reads_declarationLines h.isDeclarable .empty 0
    exact ⟨w, hw, hws.trans (Assoc.foldl_put h.nodup)⟩

/-- **The variables that scripts leave can be written down and read back.** Each is bound once
and by a name, to a text that is trimmed, not empty and on one line; and the script that
declares them, a line for each, is read without an error from an empty table, gives no
commands, and leaves the same bindings in the same order. -/
theorem afterScripts_read_back (scripts : List (Option Chars × Chars))
    (filename : Option Chars) :
    let bs := (afterScripts scripts).bindings
    let o := Script.read filename .empty (declarationScript bs)
    bs.keys.Nodup ∧
      (∀ b ∈ bs, isName b.1 = true ∧ b.2 ≠ [] ∧ Chars.trim b.2 = b.2 ∧ '\n' ∉ b.2) ∧
      o.failure = none ∧ o.commands = [] ∧ o.scope.bindings = bs := by
  intro bs o
  have hbs : Declared bs := declared_afterScripts scripts
  obtain ⟨w, hw, hws⟩ := hbs.exists_reads
  obtain ⟨hf, hc, -, hs⟩ := Script.readLines_of_reads filename hw
  refine ⟨hbs.nodup, fun b hb => ?_, ?_, ?_, ?_⟩
  · obtain ⟨hn, hne, ht, hl⟩ := hbs.isDeclarable b hb
    exact ⟨hn, hne, ht, hl⟩
  · exact (Script.failure_read ..).trans hf
  · exact (Script.commands_read ..).trans hc
  · exact (congrArg bindings ((Script.scope_read ..).trans hs)).trans hws

/-- A script that is refused at its third line, and one that binds a name again. -/
example : declarationScript (afterScripts [(none, "VAR a = \"//$a\nVAR b==\r\nVAR c"),
    (none, "VAR a = VAR b = 1\n")]).bindings = "VAR a = VAR b = 1\nVAR b = =".toList := by
  decide +kernel

end Variables
end DraftScript
