/-
# Runs that fail

Everything that can fail comes before anything that stays.  Settings, script and blocks are
read and made first, and the output file is written as a whole or not at all.  One text is
printed earlier, the approval of a checked script, and what comes after it cannot fail: the
blocks of a session come from the built-in types, which have one for every command that was
read (`HasRead.result_blocks`).

So where all texts can be put out (`System.putOut_eq`), a run that is asked for something either
ends with exit code 0, or has printed nothing to the output and left every file as it was
(`run_done_or_leftNothing`).
-/

import DraftScript.Proofs.Block.Layout
import DraftScript.Proofs.CommandLine.Reading
import DraftScript.Proofs.Files
import DraftScript.Proofs.Script.Writable

namespace DraftScript

/-- Whether a run did its task, or left nothing. -/
def Outcome.IsWhole (o : Outcome) (files : Files) : Prop :=
  o.ending = .exit 0 ∨ o.LeftNothing files

/-! ## Putting texts out -/

/-- Without halves of surrogate pairs nothing forbids a text. -/
theorem Halves.textFault?_eq_none {halves : Halves} (h : ∀ c, halves c = false) (t : Chars) :
    halves.textFault? t = none := by
  have hd : t.dropWhile (fun c => !halves c || false) = [] :=
    List.dropWhile_eq_nil_iff.2 fun c _ => by simp [h c]
  rw [textFault?, fault?, hd]

namespace Tool

theorem System.putOut_eq {sys : System} (h : ∀ c, sys.halves c = false) (ts : List Chars) :
    sys.putOut ts = (ts.flatten, none) := by
  induction ts with
  | nil => rfl
  | cons t ts ih => simp [System.putOut, Halves.textFault?_eq_none h, ih]

/-- A system whose texts can all be put out, and whose settings files hold nothing. -/
def System.plain : System where
  reader _ := .ok (.scalar .null)
  rules := .newer
  halves _ := false
  levelRoom := 990
  nameRoom := 990

namespace Context

variable {x : Context} {file : Chars} {s : Session} {l : Chars}

theorem print_eq (hx : ∀ c, x.system.halves c = false) (ts : List Chars) (errors : Chars)
    (next : Outcome) :
    x.print ts errors next = { next with output := ts.flatten ++ next.output } := by
  rw [print, System.putOut_eq hx]

/-- What is put out changes nothing about the ending. -/
theorem isWhole_print (hx : ∀ c, x.system.halves c = false) (ts : List Chars) (errors : Chars)
    {next : Outcome} (h : next.ending = .exit 0) (files : Files) :
    (x.print ts errors next).IsWhole files := by
  rw [print_eq hx]
  exact .inl h

/-! ## Rendering in a run -/

/-- The commands of a script that was read can be written. -/
theorem HasRead.isWritten (h : x.HasRead file s l) :
    ∀ c ∈ s.commands, Block.isWritten c = true := by
  cases h with
  | intro h =>
    obtain ⟨-, source, -, -, rfl⟩ := h
    exact fun c hc => Block.isWritten_of_isWritable (Script.isWritable_of_mem hc)

/-- **The blocks of a script that was read can be made.** -/
theorem HasRead.result_blocks (h : x.HasRead file s l) : (s.blocks s.commands).result =
    .ok (s.commands.flatMap fun c =>
      Block.indent s.settings.indent (Block.builtinText c) ++ "\n\n".toList) := by
  rw [Session.blocks, h.registry_eq, Block.result_renderAll, if_pos h.isWritten]

theorem withText_of_ok {r : Report Chars} {t : Chars} (h : r.result = .ok t) (x : Context)
    (l : Chars) (next : Chars → Chars → Chars → Outcome) :
    x.withText l r next = next t (warningText r.warnings) (l ++ log x.least r.events) := by
  rw [withText, h]

theorem withText_of_error {r : Report Chars} {f : RenderFault} (h : r.result = .error f)
    (x : Context) (l : Chars) (next : Chars → Chars → Chars → Outcome) :
    x.withText l r next = x.broken (l ++ log x.least r.events) (.render f) := by
  rw [withText, h]

/-! ## The tasks -/

/-- A task that begins with a script is done or leaves nothing if it does so once the script
is read. -/
theorem isWhole_withScript {next : Session → Chars → Outcome}
    (h : ∀ s l, x.HasRead file s l → (next s l).IsWhole x.files) :
    (x.withScript file next).IsWhole x.files := by
  rcases x.withScript_cases file with ⟨o, ho, hx⟩ | ⟨s, l, hs, hx⟩
  · rw [hx]
    exact .inr ho.leftNothing
  · rw [hx]
    exact h s l hs

section Tasks

variable (hx : ∀ c, x.system.halves c = false)
include hx

/-- A script that can be read is approved, whatever else is said of it. -/
theorem isWhole_check (file : Chars) : (x.check file).IsWhole x.files := by
  refine isWhole_withScript fun s l hs => ?_
  rw [withText_of_ok hs.result_blocks]
  refine isWhole_print hx _ _ ?_ _
  rw [print_eq hx]
  rfl

theorem isWhole_list (file : Chars) : (x.list file).IsWhole x.files :=
  isWhole_withScript fun _ _ _ => isWhole_print hx _ _ rfl _

/-- Code that cannot be written into its file is not printed either. -/
theorem isWhole_deliver (output : Option Chars) (t errors : Chars) :
    (x.deliver output t errors).IsWhole x.files := by
  rw [deliver]
  split
  · exact isWhole_print hx _ _ rfl _
  · dsimp only
    split
    · next files f hw =>
      obtain rfl : files = x.files := Files.eq_of_write_eq_some (Halves.textFault?_eq_none hx t) hw
      split
      · exact .inr (leftNothing_failed ..)
      · exact .inr (leftNothing_broken ..)
    · next files _ => exact isWhole_print (x := { x with files }) hx _ _ rfl _

/-- A document may have a header or footer that is no text, or a file that cannot be written. -/
theorem isWhole_render (file : Chars) (output : Option Chars) (bodyOnly : Bool) :
    (x.render file output bodyOnly).IsWhole x.files := by
  refine isWhole_withScript fun s l _ => ?_
  dsimp only
  generalize (if bodyOnly then s.blocks s.commands
    else s.document x.system.nameRoom s.commands) = r
  cases hr : r.result with
  | error f =>
    rw [withText_of_error hr]
    exact .inr (leftNothing_broken ..)
  | ok t =>
    rw [withText_of_ok hr]
    exact isWhole_deliver hx ..

/-- Command types are described as a whole before anything is put out. -/
theorem isWhole_tell (ts : Except RenderFault (List Chars)) : (x.tell ts).IsWhole x.files := by
  cases ts with
  | error f => exact .inr (leftNothing_broken ..)
  | ok ts => exact isWhole_print hx _ _ rfl _

theorem isWhole_schemas (type : Option Chars) (json : Bool) :
    (x.schemas type json).IsWhole x.files := by
  rw [schemas]
  split
  · exact isWhole_tell hx _
  · split
    · exact .inr (leftNothing_failed ..)
    · exact isWhole_tell hx _

/-- **A task is done or leaves nothing.** -/
theorem isWhole_perform (t : Task) : (x.perform t).IsWhole x.files := by
  cases t with
  | check file => exact isWhole_check hx file
  | list file => exact isWhole_list hx file
  | render file output bodyOnly => exact isWhole_render hx file output bodyOnly
  | schemas type json => exact isWhole_schemas hx type json

end Tasks

end Context

/-! ## A whole run -/

/-- **A run that fails leaves nothing behind.**  Whatever is asked for, with whatever files,
barriers and settings, by whatever rules for arguments and with whatever reader of settings: if
all texts can be put out, it is done and the exit code is 0; or the exit code is 1, or the run
ends in a fault, and then there is no output and all files are as they were, the one for the
generated code among them. -/
theorem run_done_or_leftNothing {sys : System} {arguments : List Chars} {q : Request}
    (hs : ∀ c, sys.halves c = false) (hq : Request.read sys.rules arguments = .ok q)
    (files : Files) (environment : Option Chars) :
    (run sys files environment arguments).ending = .exit 0 ∨
      ((run sys files environment arguments).ending = .exit 1 ∨
        ∃ f, (run sys files environment arguments).ending = .fault f) ∧
      (run sys files environment arguments).output = [] ∧
      (run sys files environment arguments).files = files := by
  have h : (run sys files environment arguments).IsWhole files := by
    rw [run, hq]
    dsimp only
    split
    · exact .inr ⟨.inr ⟨_, rfl⟩, rfl, rfl⟩
    · exact .inr ⟨.inl rfl, rfl, rfl⟩
    · split
      · exact .inr ⟨.inr ⟨_, rfl⟩, rfl, rfl⟩
      · exact Context.isWhole_perform hs _
  exact h.imp_right fun h => ⟨h.ending, h.output, h.files⟩

/-- Settings and script are fine, but the code may not be written over what was generated
before. -/
theorem run_done_or_leftNothing_refused :
    let sys := System.plain
    let files : Files :=
      { here := ["w"]
        barriers := [((.write, .ofText "a.cs"), .permission)]
        contents := [(["w", "c"], .text []), (["w", "a.cad"], .text "SPHERE()"),
          (["w", "a.cs"], .text "old")] }
    let arguments : List Chars := ["-c", "c", "render", "a.cad", "-o", "a.cs"]
    let outcome := run sys files none arguments
    (∀ c, sys.halves c = false) ∧
      Request.read sys.rules arguments =
        .ok ⟨some (.text "c"), 0, .render "a.cad" (some "a.cs") false⟩ ∧
      outcome.ending = .exit 1 ∧
      outcome.errors = "Error: [Errno 13] Permission denied: 'a.cs'\n" ∧
      outcome.output = [] ∧ outcome.files = files := by
  intro sys files arguments outcome
  have hs : ∀ c, sys.halves c = false := fun _ => rfl
  have hq : Request.read sys.rules arguments =
      .ok ⟨some (.text "c"), 0, .render "a.cad" (some "a.cs") false⟩ := by decide +kernel
  have he : outcome.ending = .exit 1 ∧
      outcome.errors = "Error: [Errno 13] Permission denied: 'a.cs'\n" := by decide +kernel
  rcases run_done_or_leftNothing hs hq files none with h | ⟨-, ho, hf⟩
  · exact absurd (he.1.symm.trans h) (by decide)
  · exact ⟨hs, hq, he.1, he.2, ho, hf⟩

end Tool
end DraftScript
