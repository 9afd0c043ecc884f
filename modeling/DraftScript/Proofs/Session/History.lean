/-
# Sessions over their histories

A session holds two things that live for different times: the commands, which each script
replaces, and the variables, which stay until the session is cleared.  Both can be told
from what was asked of the session and what it answered, without the session itself:

| held | told by the history |
| --- | --- |
| commands | those of the latest script, unless it was refused or the session was cleared after it |
| variables | the definitions since the latest clearing, made one after another in an empty table |

A script defines what its declarations say, up to the line at which it is refused
(`Script.bindings_read`).  One call keeps a session and its history in step
(`Reflects.call`), so they are in step after every history of calls (`after_history`), and
a session that was cleared answers as a new one does.
-/

import DraftScript.Proofs.Script.Run
import DraftScript.Proofs.Variables.History
import DraftScript.Session

namespace DraftScript

/-! ## Definitions in a table -/

namespace Variables

/-- The calls that define names by texts, one after another. -/
def definitions (ds : List (Chars × Chars)) : List Call := ds.map fun d => .define d.1 d.2

variable {v w : Variables}

theorem after_definitions_append (v : Variables) (as bs : List (Chars × Chars)) :
    v.after (definitions (as ++ bs)) = (v.after (definitions as)).after (definitions bs) := by
  rw [definitions, List.map_append, after, List.foldl_append]
  rfl

/-- What a definition binds is settled by the bindings. -/
theorem bindings_define_congr (h : v.bindings = w.bindings) (name text : Chars) :
    (v.call (.define name text)).2.bindings = (w.call (.define name text)).2.bindings := by
  by_cases hn : isName name = true <;> simp [call, define?, hn, h]

theorem bindings_after_definitions_congr (h : v.bindings = w.bindings)
    (ds : List (Chars × Chars)) :
    (v.after (definitions ds)).bindings = (w.after (definitions ds)).bindings := by
  induction ds generalizing v w with
  | nil => exact h
  | cons d ds ih => exact ih (bindings_define_congr h d.1 d.2)

end Variables

/-! ## Declarations in a script -/

/-- The name and the text that a line declares, if it is a declaration. -/
def Line.declaration? (l : Chars) : Option (Chars × Chars) :=
  match LineForm.of (Chars.trim l) with
  | .declaration body => (Chars.cutAt '=' body).map fun p => (Chars.trim p.1, Chars.trim p.2)
  | _ => none

/-- A line that is read binds what it declares. -/
theorem Line.bindings_read_of_ok {v : Variables} {l : Chars} {line : ℤ} {c : Option Command}
    (h : (read v l line).result = .ok c) :
    (read v l line).scope.bindings =
      (v.after (Variables.definitions (declaration? l).toList)).bindings := by
  obtain ⟨b, hb, hg⟩ := exists_gives_of_read h
  rw [hb, declaration?]
  cases hg with
  | nothing hf =>
    rw [LineForm.of_of_isNothing hf]
    rfl
  | declared hf hbody ha hn hx =>
    rw [LineForm.of_of_isDeclaration hf]
    simp [Chars.cutAt_eq_some_iff.2 ⟨hbody, ha⟩, Variables.definitions, Variables.after,
      Variables.call, Variables.define?, hn]
  | command hd hf =>
    rw [LineForm.of_of_isInvocation hd hf]
    rfl

namespace Script

/-- What lines declare, in order. -/
def declarations (ls : List Chars) : List (Chars × Chars) := ls.filterMap Line.declaration?

/-- The lines of a script that are read: all, or those before the line that is refused. -/
def linesRead (source : Chars) (failure : Option ScriptFailure) : List Chars :=
  match failure with
  | none => Chars.lines source
  | some f => (Chars.lines source).take (f.line - 1)

variable {v w : Variables} {n : ℕ} {ls : List Chars} {cs : List Command}

/-- A run binds what its lines declare. -/
theorem Reads.bindings_eq (h : Reads v n ls cs w) :
    w.bindings = (v.after (Variables.definitions (declarations ls))).bindings := by
  induction h with
  | nil => rfl
  | @cons v w n l ls c cs h _ ih =>
    have hl : declarations (l :: ls) = (Line.declaration? l).toList ++ declarations ls := by
      unfold declarations
      cases hd : Line.declaration? l <;> simp [hd]
    rw [ih, hl, Variables.after_definitions_append]
    exact Variables.bindings_after_definitions_congr (Line.bindings_read_of_ok h) _

/-- **A script binds what the lines declare that are read,** whether it fails or not. -/
theorem bindings_read (filename : Option Chars) (v : Variables) (source : Chars) :
    (read filename v source).scope.bindings = (v.after (Variables.definitions
      (declarations (linesRead source (read filename v source).failure)))).bindings := by
  rcases reads_or_stopsAt v (Chars.lines source) with
    ⟨cs, w, hs⟩ | ⟨n, cs, w, l, cause, hs⟩
  · obtain ⟨hf, -, -, hw⟩ := readLines_of_reads filename hs
    rw [scope_read, failure_read, hf, hw]
    exact hs.bindings_eq
  · obtain ⟨hf, -, -, hw⟩ := read_of_stopsAt filename hs
    obtain ⟨⟨before, after, hl, rfl, hr⟩, -⟩ := hs
    rw [hf, hw, hr.bindings_eq, linesRead, hl, Nat.add_sub_cancel, List.take_left]

end Script

/-! ## Calls of a session -/

namespace Session

/-- What may be asked of a session; the commands to be rendered are those of the session
unless others are given, and a document is made with room for some levels of data. -/
inductive Call where
  | read (filename : Option Chars) (source : Chars)
  | define (name text : Chars)
  | blocks (commands : Option (List Command))
  | document (room : ℕ) (commands : Option (List Command))
  | clear

/-- What is answered: how a script was read, that a variable is bound or why it is not, what
was rendered, or that the session is cleared. -/
inductive Reply where
  | script (o : ScriptOutcome)
  | bound (e : Event)
  | refused (message : Chars)
  | rendered (r : Report Chars)
  | cleared (e : Event)

/-- The answer to a call, and the session afterwards. -/
def call (s : Session) : Call → Reply × Session
  | .read filename source => (.script (s.read filename source).1, (s.read filename source).2)
  | .define name text =>
    match s.define? name text with
    | some (s', e) => (.bound e, s')
    | none => (.refused (Variables.notAName name), s)
  | .blocks cs => (.rendered (s.blocks (cs.getD s.commands)), s)
  | .document room cs => (.rendered (s.document room (cs.getD s.commands)), s)
  | .clear => (.cleared s.clear.2, s.clear.1)

/-- The session after calls, one after another. -/
def after (s : Session) (cs : List Call) : Session := cs.foldl (fun s c => (s.call c).2) s

/-- Calls, one after another, each with its answer. -/
def history (s : Session) : List Call → List (Call × Reply)
  | [] => []
  | c :: cs => (c, (s.call c).1) :: history (s.call c).2 cs

/-! ## What a history tells -/

/-- The commands that a call leaves, if it sets them: those that a script gave, and none
after a script that was refused or after clearing. -/
def commandsSet? : Call × Reply → Option (List Command)
  | (_, .script o) => some (if o.failure.isSome then [] else o.commands)
  | (_, .cleared _) => some []
  | _ => none

/-- The commands by a history: as the latest call that sets them leaves them. -/
def latestCommands (h : List (Call × Reply)) : List Command :=
  (h.reverse.findSome? commandsSet?).getD []

/-- What a call defines, in order: a variable that is bound, or the declarations in the lines
of a script that are read. -/
def defined : Call × Reply → List (Chars × Chars)
  | (.define name text, .bound _) => [(name, text)]
  | (.read _ source, .script o) => Script.declarations (Script.linesRead source o.failure)
  | _ => []

/-- Whether a call clears the session. -/
def Call.isClear : Call → Bool
  | clear => true
  | _ => false

/-- The part of a history behind the latest clearing. -/
def sinceClear (h : List (Call × Reply)) : List (Call × Reply) :=
  (h.reverse.takeWhile fun e => !e.1.isClear).reverse

/-- The variables by a history: what is defined since the latest clearing, one after another,
in an empty table. -/
def replayed (h : List (Call × Reply)) : Variables :=
  Variables.empty.after (Variables.definitions ((sinceClear h).flatMap defined))

theorem latestCommands_concat (h : List (Call × Reply)) (e : Call × Reply) :
    latestCommands (h ++ [e]) = (commandsSet? e).getD (latestCommands h) := by
  rw [latestCommands, List.reverse_concat, List.findSome?_cons]
  cases commandsSet? e <;> rfl

theorem sinceClear_concat (h : List (Call × Reply)) (e : Call × Reply) :
    sinceClear (h ++ [e]) = if e.1.isClear then [] else sinceClear h ++ [e] := by
  rw [sinceClear, List.reverse_concat, List.takeWhile_cons]
  cases e.1.isClear with
  | true => rfl
  | false => exact List.reverse_cons

/-- A call that does not clear adds its definitions. -/
theorem replayed_concat {h : List (Call × Reply)} {e : Call × Reply}
    (he : e.1.isClear = false) : replayed (h ++ [e]) =
      (replayed h).after (Variables.definitions (defined e)) := by
  simp only [replayed, sinceClear_concat, he, Bool.false_eq_true, if_false, List.flatMap_append,
    List.flatMap_singleton, Variables.after_definitions_append]

/-! ## Sessions and their histories -/

/-- The commands after a call are those that it sets, or else those before. -/
theorem commands_call (s : Session) (c : Call) :
    (s.call c).2.commands = (commandsSet? (c, (s.call c).1)).getD s.commands := by
  cases c with
  | define name text =>
    rw [call, define?]
    cases s.scope.define? name text <;> rfl
  | read | blocks | document | clear => rfl

/-- The bindings after a call that does not clear are those before and its definitions. -/
theorem bindings_call (s : Session) {c : Call} (hc : c.isClear = false) :
    (s.call c).2.scope.bindings =
      (s.scope.after (Variables.definitions (defined (c, (s.call c).1)))).bindings := by
  cases c with
  | read filename source => exact Script.bindings_read filename s.scope source
  | define name text =>
    rw [call, define?]
    cases hd : s.scope.define? name text with
    | none => rfl
    | some p => simp [defined, Variables.definitions, Variables.after, Variables.call, hd]
  | blocks | document => rfl
  | clear => cases hc

/-- Whether a session holds what a history tells. -/
structure Reflects (s : Session) (h : List (Call × Reply)) : Prop where
  commands : s.commands = latestCommands h
  bindings : s.scope.bindings = (replayed h).bindings

variable {s : Session} {h : List (Call × Reply)}

/-- **One call keeps a session and its history in step.** -/
theorem Reflects.call (hs : s.Reflects h) (c : Call) :
    (s.call c).2.Reflects (h ++ [(c, (s.call c).1)]) := by
  constructor
  · rw [latestCommands_concat, ← hs.commands]
    exact commands_call s c
  · cases hc : c.isClear with
    | false =>
      rw [replayed_concat hc, bindings_call s hc]
      exact Variables.bindings_after_definitions_congr hs.bindings _
    | true =>
      cases c with
      | clear =>
        rw [replayed, sinceClear_concat]
        rfl
      | read | define | blocks | document => cases hc

/-- Calls keep a session and its history in step. -/
theorem Reflects.after (hs : s.Reflects h) (cs : List Call) :
    (s.after cs).Reflects (h ++ s.history cs) := by
  induction cs generalizing s h with
  | nil => simpa [Session.after, history] using hs
  | cons c cs ih =>
    have := ih (hs.call c)
    rwa [List.append_assoc, List.singleton_append] at this

/-- No call changes the registry or the settings. -/
theorem registry_settings_call (s : Session) (c : Call) :
    (s.call c).2.registry = s.registry ∧ (s.call c).2.settings = s.settings := by
  cases c with
  | define name text =>
    rw [call, define?]
    cases s.scope.define? name text <;> exact ⟨rfl, rfl⟩
  | read | blocks | document | clear => exact ⟨rfl, rfl⟩

theorem registry_settings_after (s : Session) (cs : List Call) :
    (s.after cs).registry = s.registry ∧ (s.after cs).settings = s.settings := by
  induction cs generalizing s with
  | nil => exact ⟨rfl, rfl⟩
  | cons c cs ih =>
    obtain ⟨hr, hs⟩ := ih (s.call c).2
    exact ⟨hr.trans (registry_settings_call s c).1, hs.trans (registry_settings_call s c).2⟩

/-- **A session holds what its history tells.** Its commands are those of the latest script,
none if that was refused or the session was cleared since; its variables, in order, are those
that all definitions since the latest clearing give in an empty table, a refused script
defining what it declares before the refused line.  A session that is cleared then answers
all further calls as a new one with the same registry and settings. -/
theorem after_history (registry : Registry) (settings : Settings) (cs : List Call) :
    let new : Session := { registry, settings }
    (new.after cs).commands = latestCommands (new.history cs) ∧
      (new.after cs).scope.bindings = (replayed (new.history cs)).bindings ∧
      ∀ ds, (new.after (cs ++ [.clear])).history ds = new.history ds := by
  intro new
  have hs : new.Reflects [] := ⟨rfl, rfl⟩
  obtain ⟨hc, hb⟩ := hs.after cs
  refine ⟨hc, hb, fun ds => ?_⟩
  have hnew : new.after (cs ++ [.clear]) = new := by
    obtain ⟨hr, ht⟩ := registry_settings_after new cs
    calc new.after (cs ++ [.clear]) = ((new.after cs).call .clear).2 := by
          rw [Session.after, List.foldl_append]
          rfl
      _ = { registry := (new.after cs).registry, settings := (new.after cs).settings } := rfl
      _ = new := by rw [hr, ht]
  rw [hnew]

/-- A script that binds a variable and fails at its second line: the variable stays, and
there are no commands. -/
example :
    let s : Session := { registry := {} }
    let h := s.history [.define "a" "1", .clear, .read none "VAR b = 2\nA(\nVAR c = 3"]
    latestCommands h = [] ∧ (replayed h).bindings = [("b".toList, "2".toList)] := by
  decide +kernel

end Session
end DraftScript
