/-
# Checking, listing and rendering the same script

Three tasks read a script, and they read it alike.  If it cannot be read they end in the same
way, with the same error text.  If it can, all of them are done:

| task | output | error text |
| --- | --- | --- |
| `check` | the approval with the number of commands, the warnings | the log |
| `list` | the number of commands, the commands, the variables | the log so far |
| `render --body-only` | a block for each command | the log, the warnings |
| `render` | header, the same blocks, footer | the log, the warnings |

Only `render` can still fail, for a header or a footer that is no text or an output file that
cannot be written.  With an output file the text goes there instead (`check_list_render`).

All of this holds where all texts can be put out.  Half of a surrogate pair is told by one task
and kept from another: a margin with one is put in front of blocks, which only `render` shows
(`check_list_render_halves`).
-/

import DraftScript.Proofs.CommandLine.Failure

namespace DraftScript
namespace Tool
namespace Context

variable {x : Context} {file : Chars} {s : Session} {l : Chars}

/-! ## Runs that end for the script -/

/-- **A run that ends for its script ends so for every task.** -/
theorem eq_of_unread {o : Outcome} (h : ∀ next, x.withScript file next = o) :
    x.check file = o ∧ x.list file = o ∧
      ∀ output bodyOnly, x.render file output bodyOnly = o :=
  ⟨h _, h _, fun _ _ => h _⟩

/-- A script with an error ends the run with the diagnostic of it. -/
theorem withScript_of_error {o : ScriptOutcome} {e : ScriptError} (h : x.Reads file o)
    (he : o.error? = some e) (next : Session → Chars → Outcome) : x.withScript file next =
      x.failed (log x.least o.events ++ (e.diagnostic.format? true).getD [] ++ "\n") := by
  obtain ⟨c, source, hc, hr, rfl⟩ := h
  obtain ⟨f, hf, he⟩ := Option.bind_eq_some_iff.1 he
  simp only [withScript, hc, hr, Session.read, hf, he]

/-! ## Runs that go on -/

/-- What is said of the blocks of a session: the log of making them, and their warnings. -/
def blockLog (x : Context) (s : Session) : Chars := log x.least (s.blocks s.commands).events

/-- The blocks of a session, one for each command. -/
def blockTexts (s : Session) : List Chars :=
  s.commands.map fun c => Block.indent s.settings.indent (Block.builtinText c) ++ "\n\n".toList

theorem HasRead.result_blocks_eq (h : x.HasRead file s l) :
    (s.blocks s.commands).result = .ok (blockTexts s).flatten := by
  rw [h.result_blocks, List.flatMap_def]
  rfl

/-- A document is made like its blocks, if it can be made. -/
theorem HasRead.document_eq (h : x.HasRead file s l) {room : ℕ} {header footer : Chars}
    (hh : Document.header room s.settings = .ok (.text header))
    (hf : Document.footer s.settings = .text footer) :
    s.document room s.commands = { s.blocks s.commands with
      result := .ok (header ++ (blockTexts s).flatten ++ footer) } := by
  have hb := h.result_blocks_eq
  rw [Session.blocks] at hb
  rw [Session.document, Document.render, Report.bind_eq_of_ok hb, hh, hf, Session.blocks]
  simp [Report.ofExcept, Document.join_text, bind, Except.bind]

section Done

variable (hp : ∀ c, x.system.halves c = false) (hx : ∀ next, x.withScript file next = next s l)
  (h : x.HasRead file s l)

include hp in
theorem print_done (ts : List Chars) (errors : Chars) :
    x.print ts errors (x.done errors) = { x.done errors with output := ts.flatten } := by
  rw [print_eq hp]
  exact congrArg (fun t => ({ x.done errors with output := t } : Outcome)) ts.flatten.append_nil

include hp hx h in
theorem check_eq : x.check file =
    { x.done (l ++ x.blockLog s) with
      output := approval file s.commands.length ++
        warningText (s.blocks s.commands).warnings } := by
  rw [check, hx, withText_of_ok h.result_blocks_eq, print_done hp, print_eq hp]
  simp [blockLog, done]

include hp hx in
theorem list_eq : x.list file =
    { x.done l with output := Listing.text (Listing.script s) } := by
  rw [list, hx, print_done hp]
  rfl

include hx h

theorem render_blocks_eq (output : Option Chars) : x.render file output true =
    x.deliver output (blockTexts s).flatten
      (l ++ x.blockLog s ++ warningText (s.blocks s.commands).warnings) := by
  rw [render, hx]
  exact withText_of_ok h.result_blocks_eq ..

theorem render_document_eq (output : Option Chars) {header footer : Chars}
    (hh : Document.header x.system.nameRoom s.settings = .ok (.text header))
    (hf : Document.footer s.settings = .text footer) : x.render file output false =
      x.deliver output (header ++ (blockTexts s).flatten ++ footer)
        (l ++ x.blockLog s ++ warningText (s.blocks s.commands).warnings) := by
  have hd := h.document_eq hh hf
  rw [render, hx]
  dsimp only
  rw [if_neg Bool.false_ne_true, hd]
  exact withText_of_ok rfl ..

end Done

section Delivery

variable (hp : ∀ c, x.system.halves c = false)
include hp

/-- A text without an output file is printed. -/
theorem deliver_none (t errors : Chars) :
    x.deliver none t errors = { x.done errors with output := t } := by
  have hd : x.deliver none t errors = x.print [t] errors (x.done errors) := rfl
  rw [hd, print_done hp, List.flatten_cons, List.flatten_nil, List.append_nil]

/-- A text with an output file is written there, if that can be done. -/
theorem deliver_some {output t : Chars} {files : Files} (ho : output ≠ [])
    (hw : x.files.write x.system.halves (.ofText output) t = (files, none)) (errors : Chars) :
    x.deliver (some output) t errors = { x.done errors with
      output := "Generated code saved to " ++ (FilePath.ofText output).text ++ "\n", files } := by
  have hf : (some output).filter (· ≠ []) = some output := by simp [ho]
  rw [deliver, hf]
  dsimp only
  rw [hw]
  dsimp only
  rw [print_done (x := { x with files }) hp, List.flatten_cons, List.flatten_nil,
    List.append_nil]
  rfl

end Delivery

/-! ## The agreement -/

theorem forall₂_blockTexts (h : x.HasRead file s l) :
    List.Forall₂ (fun c b => (Block.render Catalogue.registry x.settings.indent c).result = .ok b)
      s.commands (blockTexts s) := by
  rw [← h.settings_eq, blockTexts, List.forall₂_map_right_iff, List.forall₂_same]
  intro c hc
  rw [Block.result_render, if_pos (h.isWritten c hc)]

theorem text_script (s : Session) : ∃ rest, Listing.text (Listing.script s) =
    "Total commands: " ++ Chars.ofNat s.commands.length ++ "\n" ++ rest :=
  ⟨Listing.text (Listing.script s).tail, rfl⟩

/-- What checking, listing and rendering a script have in common. -/
structure Agree (x : Context) (file : Chars) : Prop where
  check_iff_list : (x.check file).ending = .exit 0 ↔ (x.list file).ending = .exit 0
  list_iff_render : (x.list file).ending = .exit 0 ↔ (x.render file none true).ending = .exit 0
  /-- If one fails, all fail in the same way. -/
  failing : (x.check file).ending ≠ .exit 0 → x.list file = x.check file ∧
    ∀ output bodyOnly, x.render file output bodyOnly = x.check file
  /-- An error of the script is told by its diagnostic, behind the log. -/
  refused : ∀ o e, x.Reads file o → o.error? = some e → x.check file =
    x.failed (log x.least o.events ++ (e.diagnostic.format? true).getD [] ++ "\n")
  /-- Else they count the same commands, a block is rendered for each, and they warn alike. -/
  done : (x.check file).ending = .exit 0 → ∃ o blocks warnings rest,
    x.Reads file o ∧ o.failure = none ∧
    List.Forall₂ (fun c b => (Block.render Catalogue.registry x.settings.indent c).result = .ok b)
      o.commands blocks ∧
    (x.check file).output = approval file o.commands.length ++ warnings ∧
    (x.list file).output =
      "Total commands: " ++ Chars.ofNat o.commands.length ++ "\n" ++ rest ∧
    (x.render file none true).output = blocks.flatten ∧ blocks.length = o.commands.length ∧
    (x.render file none true).errors = (x.check file).errors ++ warnings
  /-- A document is header, blocks and footer, if these are texts. -/
  document : (x.check file).ending = .exit 0 → ∀ header footer,
    Document.header x.system.nameRoom x.settings = .ok (.text header) →
    Document.footer x.settings = .text footer →
    x.render file none false = { x.render file none true with
      output := header ++ (x.render file none true).output ++ footer }
  /-- What would be printed is written to an output file instead. -/
  delivered : ∀ output bodyOnly files, output ≠ [] →
    (x.render file none bodyOnly).ending = .exit 0 →
    x.files.write x.system.halves (.ofText output) (x.render file none bodyOnly).output =
      (files, none) →
    (x.render file (some output) bodyOnly).ending = .exit 0 ∧
      (x.render file (some output) bodyOnly).files = files ∧
      files.content? (.ofText output) = some (.text (x.render file none bodyOnly).output)

/-- Rendering ends for the script or for a text, or gives a text, which does not depend on
where it is put. -/
theorem render_cases (x : Context) (file : Chars) (bodyOnly : Bool) :
    (∃ o : Outcome, o.LeftNothing x.files ∧ ∀ output, x.render file output bodyOnly = o) ∨
      ∃ t errors, ∀ output, x.render file output bodyOnly = x.deliver output t errors := by
  rcases x.withScript_cases file with ⟨o, ho, hx⟩ | ⟨s, l, -, hx⟩
  · exact .inl ⟨o, ho.leftNothing, fun _ => hx _⟩
  · simp only [render, hx]
    generalize (if bodyOnly then s.blocks s.commands
      else s.document x.system.nameRoom s.commands) = r
    cases hr : r.result with
    | error f => exact .inl ⟨_, leftNothing_broken .., fun _ => withText_of_error hr ..⟩
    | ok t => exact .inr ⟨t, _, fun _ => withText_of_ok hr ..⟩

/-- **What is written to the output file is what would be printed without it.** -/
theorem render_some (hp : ∀ c, x.system.halves c = false) {output : Chars} {bodyOnly : Bool}
    {files : Files} (ho : output ≠ []) (h : (x.render file none bodyOnly).ending = .exit 0)
    (hw : x.files.write x.system.halves (.ofText output) (x.render file none bodyOnly).output =
      (files, none)) :
    (x.render file (some output) bodyOnly).ending = .exit 0 ∧
      (x.render file (some output) bodyOnly).files = files ∧
      files.content? (.ofText output) = some (.text (x.render file none bodyOnly).output) := by
  rcases x.render_cases file bodyOnly with ⟨o, hl, hr⟩ | ⟨t, errors, hr⟩
  · rw [hr] at h
    exact absurd h hl.ending_ne
  · have ht : x.files.write x.system.halves (.ofText output) t = (files, none) := by
      rwa [hr, deliver_none hp] at hw
    rw [hr, hr, deliver_none hp, deliver_some hp ho ht]
    exact ⟨rfl, rfl, Files.content?_write ht⟩

section Agreeing

variable (hp : ∀ c, x.system.halves c = false)
include hp

theorem agree_of_unread {o : Outcome} (ho : x.Unread file o)
    (hx : ∀ next, x.withScript file next = o) : x.Agree file := by
  obtain ⟨hc, hl, hr⟩ := eq_of_unread hx
  have hne : (x.check file).ending ≠ .exit 0 := by
    rw [hc]
    exact ho.leftNothing.ending_ne
  exact {
    check_iff_list := by rw [hc, hl]
    list_iff_render := by rw [hl, hr]
    failing := fun _ => ⟨by rw [hl, hc], fun _ _ => by rw [hr, hc]⟩
    refused := fun _ _ h he => withScript_of_error h he _
    done := fun h => absurd h hne
    document := fun h => absurd h hne
    delivered := fun _ _ _ => render_some hp }

theorem agree_of_hasRead (hs : x.HasRead file s l)
    (hx : ∀ next, x.withScript file next = next s l) : x.Agree file := by
  have hc := check_eq hp hx hs
  have hl := list_eq hp hx
  have hr := render_blocks_eq hx hs none
  rw [deliver_none hp] at hr
  obtain ⟨o, ho, hf, hcs⟩ := hs.exists_reads
  obtain ⟨rest, hrest⟩ := text_script s
  have hlen : (blockTexts s).length = o.commands.length := by rw [blockTexts, List.length_map, hcs]
  exact {
    check_iff_list := by rw [hc, hl]; rfl
    list_iff_render := by rw [hl, hr]; rfl
    failing := fun h => absurd (by rw [hc]; rfl) h
    refused := fun _ _ h he => withScript_of_error h he _
    done := fun _ => by
      refine ⟨o, blockTexts s, warningText (s.blocks s.commands).warnings, rest, ho, hf,
        hcs ▸ forall₂_blockTexts hs, ?_, ?_, ?_, hlen, ?_⟩
      · rw [hc, ← hcs]
      · rw [hl, ← hcs]
        exact hrest
      · rw [hr]
      · rw [hr, hc]
        rfl
    document := fun _ header footer hh hft => by
      rw [← hs.settings_eq] at hh hft
      rw [render_document_eq hx hs none hh hft, hr, deliver_none hp]
    delivered := fun _ _ _ => render_some hp }

/-- **Checking, listing and rendering agree on every script,** with any files, barriers, settings
and level of the log, if all texts can be put out. -/
theorem check_list_render (file : Chars) : x.Agree file := by
  rcases x.withScript_cases file with ⟨o, ho, hx⟩ | ⟨s, l, hs, hx⟩
  · exact agree_of_unread hp ho hx
  · exact agree_of_hasRead hp hs hx

end Agreeing

/-- Of two commands one is unknown: it counts, its block says so, and it is warned of alike. -/
theorem check_list_render_unknown :
    let files : Files :=
      { here := ["w"], contents := [(["w", "a.cad"], .text "SPHERE()\nGADGET()")] }
    let x : Context := ⟨.plain, files, {}, .error⟩
    let warnings : Chars :=
      "Line 2: warning[W101]: unknown command: GADGET\n1 warning(s)\n"
    (∀ c, x.system.halves c = false) ∧ x.Agree "a.cad" ∧
      (x.check "a.cad").output = "OK: a.cad - 2 command(s), no errors\n" ++ warnings ∧
      (x.render "a.cad" none true).errors = warnings := by
  intro files x warnings
  have hp : ∀ c, x.system.halves c = false := fun _ => rfl
  exact ⟨hp, check_list_render hp "a.cad", by decide +kernel, by decide +kernel⟩

end Context

/-- Half of a surrogate pair in the margin: the script is approved and listed, but its blocks
cannot be put out. -/
theorem check_list_render_halves :
    let half : Char := Chars.ofCode 0xD800
    let sys : System :=
      { System.plain with
        reader := fun _ => .ok (.mapping [(.text "indent", .text [half])])
        halves := Chars.isHalf }
    let files : Files :=
      { here := ["w"]
        contents := [(["w", "c"], .text "indent: \"\\ud800\""), (["w", "a.cad"], .text "BOX()")] }
    let ending (task : List Chars) := (run sys files none ("-c" :: "c" :: task)).ending
    ending ["check", "a.cad"] = .exit 0 ∧ ending ["list", "a.cad"] = .exit 0 ∧
      ending ["render", "--body-only", "a.cad"] = .fault (.file (.half 0 1 half)) := by
  decide +kernel
end Tool
end DraftScript
