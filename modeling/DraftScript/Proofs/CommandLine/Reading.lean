/-
# How a task gets its script

Three of the four tasks begin with a script.  What can go wrong until it is read does not
depend on the task:

| case | ending | error text |
| --- | --- | --- |
| `closed` | 1 | why the file cannot be opened |
| `notText` | fault | nothing |
| `refused` | 1 | the log, and the diagnostic of the error |
| `overlong` | fault | the log |

In each the run leaves no output and all files as they are (`Unread.leftNothing`).  Otherwise
the task goes on with the session that has read the script (`HasRead`), and no run does both
(`withScript_cases`).
-/

import DraftScript.CommandLine.Tool
import Mathlib.Tactic.ByContra

namespace DraftScript

/-- Whether a run did not do its task, and left no output and all files as they were. -/
structure Outcome.LeftNothing (o : Outcome) (files : Files) : Prop where
  ending : o.ending = .exit 1 ∨ ∃ f, o.ending = .fault f
  output : o.output = []
  files : o.files = files

theorem Outcome.LeftNothing.ending_ne {o : Outcome} {files : Files} (h : o.LeftNothing files) :
    o.ending ≠ .exit 0 := by
  rcases h.ending with h | ⟨f, h⟩
  · simp [h]
  · simp [h]

/-- A failure without an error of the script is for an overlong number. -/
theorem ScriptFailure.exists_digits_of_error? {f : ScriptFailure} (h : f.error? = none) :
    ∃ n, f.cause = .digits n := by
  by_contra hn
  have hs : (f.cause.error? (some f.line)).isSome :=
    (Refusal.error?_isSome_iff _ _).2 fun n he => hn ⟨n, he⟩
  rw [ScriptFailure.error?, Option.map_eq_none_iff] at h
  rw [h] at hs
  cases hs

namespace Tool.Context

variable {x : Context} {file : Chars}

theorem leftNothing_failed (x : Context) (errors : Chars) :
    (x.failed errors).LeftNothing x.files := ⟨.inl rfl, rfl, rfl⟩

theorem leftNothing_broken (x : Context) (errors : Chars) (f : ToolFault) :
    (x.broken errors f).LeftNothing x.files := ⟨.inr ⟨f, rfl⟩, rfl, rfl⟩

/-- Whether a file holds a script, which reads with an outcome. -/
def Reads (x : Context) (file : Chars) (o : ScriptOutcome) : Prop :=
  ∃ c source, x.content (.ofText file) = .ok c ∧ c.read? = some source ∧
    o = Script.read (some file) .empty source

/-- How a run ends for its script. -/
inductive Unread (x : Context) (file : Chars) : Outcome → Prop
  | closed {message : Chars} (h : x.content (.ofText file) = .error message) :
      Unread x file (x.failed (errorText message))
  | notText {c : Content} (h : x.content (.ofText file) = .ok c) (hc : c.read? = none) :
      Unread x file (x.broken [] .scriptNotText)
  | refused {o : ScriptOutcome} {e : ScriptError} (h : x.Reads file o) (he : o.error? = some e) :
      Unread x file
        (x.failed (log x.least o.events ++ (e.diagnostic.format? true).getD [] ++ "\n"))
  | overlong {o : ScriptOutcome} {f : ScriptFailure} {n : Nat} (h : x.Reads file o)
      (hf : o.failure = some f) (hn : f.cause = .digits n) :
      Unread x file (x.broken (log x.least o.events) (.digits n))

/-- **A run that ends for its script leaves nothing.** -/
theorem Unread.leftNothing {o : Outcome} (h : x.Unread file o) : o.LeftNothing x.files := by
  cases h with
  | closed | refused => exact leftNothing_failed ..
  | notText | overlong => exact leftNothing_broken ..

/-- The session that has read a script to its end, and the log of that. -/
inductive HasRead (x : Context) (file : Chars) : Session → Chars → Prop
  | intro {o : ScriptOutcome} (h : x.Reads file o) (hf : o.failure = none) :
      HasRead x file ⟨Catalogue.registry, x.settings, o.scope, o.commands⟩ (log x.least o.events)

namespace HasRead

variable {s : Session} {l : Chars}

theorem registry_eq (h : x.HasRead file s l) : s.registry = Catalogue.registry := by
  cases h
  rfl

theorem settings_eq (h : x.HasRead file s l) : s.settings = x.settings := by
  cases h
  rfl

theorem exists_reads (h : x.HasRead file s l) :
    ∃ o, x.Reads file o ∧ o.failure = none ∧ s.commands = o.commands := by
  cases h with
  | intro h hf => exact ⟨_, h, hf, rfl⟩

end HasRead

/-- **A task that begins with a script either ends for it, whatever the task is, or goes on
with the session that has read it.** -/
theorem withScript_cases (x : Context) (file : Chars) :
    (∃ o, x.Unread file o ∧ ∀ next, x.withScript file next = o) ∨
      ∃ s l, x.HasRead file s l ∧ ∀ next, x.withScript file next = next s l := by
  cases hc : x.content (.ofText file) with
  | error message => exact .inl ⟨_, .closed hc, fun next => by rw [withScript, hc]⟩
  | ok c =>
    cases hr : c.read? with
    | none => exact .inl ⟨_, .notText hc hr, fun next => by simp only [withScript, hc, hr]⟩
    | some source =>
      have hreads : x.Reads file (Script.read (some file) .empty source) := ⟨c, source, hc, hr, rfl⟩
      cases hf : (Script.read (some file) .empty source).failure with
      | none =>
        refine .inr ⟨_, _, .intro hreads hf, fun next => ?_⟩
        simp only [withScript, hc, hr, Session.read, hf, Option.isSome_none, Bool.false_eq_true,
          if_false]
      | some f =>
        cases he : f.error? with
        | some e =>
          have ho : (Script.read (some file) .empty source).error? = some e := by
            rw [ScriptOutcome.error?, hf, Option.bind_some, he]
          refine .inl ⟨_, .refused hreads ho, fun next => ?_⟩
          simp only [withScript, hc, hr, Session.read, hf, he]
        | none =>
          obtain ⟨n, hn⟩ := ScriptFailure.exists_digits_of_error? he
          refine .inl ⟨_, .overlong hreads hf hn, fun next => ?_⟩
          simp only [withScript, hc, hr, Session.read, hf, he, hn]

end Tool.Context
end DraftScript
