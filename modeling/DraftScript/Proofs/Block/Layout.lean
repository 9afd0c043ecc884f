/-
# The layout of a block

With an indent and a type that hold no line feed, a block is a text of whole lines, each
ended by a line feed:

    // SPHERE command (line 4)                 // CUBE command (line 5)
    {                                          // Unknown command: CUBE
        Solid3d sphere = new Solid3d();
    }

The lines of the template stand four spaces further in than the braces, and an empty line
ends the block (`layout`).  No built-in template can fail on values that can be written, so every
command that gives only those is rendered so from the built-in registry (`render_builtin`).  There
is no text for a command that gives a declared parameter a color with a channel of too many digits
(`result_text`).
-/

import DraftScript.Block
import DraftScript.Proofs.Catalogue.Soundness
import DraftScript.Proofs.Chars.Split
import DraftScript.Proofs.Literal.ReadBack
import DraftScript.Proofs.Resolution.Reports

namespace DraftScript
namespace Block

variable {margin : Chars} {c : Command}

/-! ## Indented lines -/

/-- A line behind an indent, or an empty line. -/
def indentLine (margin l : Chars) : Chars := if l = [] then [] else margin ++ l

theorem indentLine_of_ne_nil {l : Chars} (h : l ≠ []) (margin : Chars) :
    indentLine margin l = margin ++ l := if_neg h

theorem indentLine_indentLine (margin inner l : Chars) :
    indentLine margin (indentLine inner l) = indentLine (margin ++ inner) l := by
  by_cases h : l = []
  · rw [h]
    rfl
  · rw [indentLine_of_ne_nil h, indentLine_of_ne_nil h,
      indentLine_of_ne_nil (List.append_ne_nil_of_right_ne_nil _ h), List.append_assoc]

theorem not_mem_indentLine {l : Chars} (hm : '\n' ∉ margin) (hl : '\n' ∉ l) :
    '\n' ∉ indentLine margin l := by
  rw [indentLine]
  split
  · exact List.not_mem_nil
  · simp [hm, hl]

theorem indent_eq (margin t : Chars) :
    indent margin t = Chars.unlines ((Chars.lines t).map (indentLine margin)) := rfl

/-- **An indented text has the lines of the text, each behind the indent.** -/
theorem lines_indent (hm : '\n' ∉ margin) (t : Chars) :
    Chars.lines (indent margin t) = (Chars.lines t).map (indentLine margin) := by
  have hl : ∀ l ∈ (Chars.lines t).map (indentLine margin), Chars.lines l = [l] := by
    intro l hl
    obtain ⟨k, hk, rfl⟩ := List.mem_map.1 hl
    exact Chars.lines_of_not_mem (not_mem_indentLine hm (Chars.not_mem_of_mem_lines hk))
  rw [indent_eq, Chars.lines_unlines (mt List.map_eq_nil_iff.1 (Chars.lines_ne_nil t)),
    List.flatMap_congr hl, List.flatMap_singleton']

/-- An indented text with an empty line behind it, in whole lines. -/
theorem indent_append (margin t : Chars) : indent margin t ++ "\n\n".toList =
    Chars.terminated ((Chars.lines t).map (indentLine margin) ++ [[]]) := by
  rw [indent_eq, Chars.terminated_append,
    Chars.terminated_eq (mt List.map_eq_nil_iff.1 (Chars.lines_ne_nil t)), List.append_assoc]
  rfl

/-! ## The lines of a block -/

/-- The lines of the block of a command: the header, then the lines of its body between
braces, or a marker if it has none, and an empty line. -/
def layout (margin : Chars) (c : Command) : Option Chars → List Chars
  | some body =>
    [margin ++ header c, margin ++ ['\x7b']] ++
      (Chars.lines body).map (indentLine (margin ++ bodyIndent)) ++ [margin ++ ['\x7d'], []]
  | none => [margin ++ header c, margin ++ "// Unknown command: " ++ c.type, []]

theorem header_eq (c : Command) : header c =
    "// ".toList ++ c.type ++ " command (line ".toList ++ Chars.ofInt c.line ++ ")".toList := rfl

theorem not_mem_header (hc : '\n' ∉ c.type) : '\n' ∉ header c := by
  have hn := (isNumeralText_ofInt c.line).not_mem (d := '\n') rfl
  rw [header_eq]
  simp only [List.mem_append, not_or]
  exact ⟨⟨⟨⟨by decide, hc⟩, by decide⟩, hn⟩, by decide⟩

theorem header_ne_nil (c : Command) : header c ≠ [] := List.cons_ne_nil '/' _

/-- No line of a block holds a line feed. -/
theorem not_mem_of_mem_layout (hc : '\n' ∉ c.type) (hm : '\n' ∉ margin) {body : Option Chars}
    {l : Chars} (hl : l ∈ layout margin c body) : '\n' ∉ l := by
  have hh := not_mem_header hc
  cases body with
  | none =>
    simp only [layout, List.mem_cons, List.not_mem_nil, or_false] at hl
    rcases hl with rfl | rfl | rfl
    · simp [hm, hh]
    · simp [hm, hc]
    · exact List.not_mem_nil
  | some body =>
    have hi : '\n' ∉ margin ++ bodyIndent := by
      simp [hm, bodyIndent]
    simp only [layout, List.mem_append, List.mem_cons, List.not_mem_nil, or_false,
      List.mem_map] at hl
    rcases hl with ((rfl | rfl) | ⟨k, hk, rfl⟩) | rfl | rfl
    · simp [hm, hh]
    · simp [hm]
    · exact not_mem_indentLine hi (Chars.not_mem_of_mem_lines hk)
    · simp [hm]
    · exact List.not_mem_nil

theorem lines_unknown (c : Command) : Chars.lines (unknown c) =
    Chars.lines (header c) ++ Chars.lines ("// Unknown command: ".toList ++ c.type) := by
  rw [unknown, Chars.lines_unlines (List.cons_ne_nil _ _)]
  simp only [List.flatMap_cons, List.flatMap_nil, List.append_nil]

/-- The lines of a body stand between braces, further in. -/
theorem lines_known (c : Command) (body : Chars) : Chars.lines (known c body) =
    Chars.lines (header c) ++ [['\x7b']] ++ (Chars.lines body).map (indentLine bodyIndent) ++
      [['\x7d']] := by
  have hb : '\n' ∉ bodyIndent := by decide
  rw [known, Chars.lines_unlines (List.cons_ne_nil _ _)]
  simp only [List.flatMap_cons, lines_indent hb, List.append_assoc]
  rfl

theorem indent_unknown (hc : '\n' ∉ c.type) (margin : Chars) :
    indent margin (unknown c) ++ "\n\n".toList = Chars.terminated (layout margin c none) := by
  have hu : '\n' ∉ "// Unknown command: ".toList ++ c.type := by simp [hc]
  rw [indent_append, lines_unknown, Chars.lines_of_not_mem (not_mem_header hc),
    Chars.lines_of_not_mem hu, layout]
  simp [indentLine_of_ne_nil, header_ne_nil]

theorem indent_known (hc : '\n' ∉ c.type) (margin body : Chars) :
    indent margin (known c body) ++ "\n\n".toList =
      Chars.terminated (layout margin c (some body)) := by
  rw [indent_append, lines_known, Chars.lines_of_not_mem (not_mem_header hc), layout]
  simp [indentLine_of_ne_nil, header_ne_nil, indentLine_indentLine, Function.comp_def]

/-! ## Rendering -/

variable {s : Schema}

/-- The block of a registered type is made of what its parameters resolve to. -/
theorem result_text_of_get? {r : Registry} (h : r.get? c.type = some s) (collected : Bool) :
    (text r c collected).result = ((Resolution.all s c collected).result >>= s.render).map
      fun body => known c (Chars.dropEndWhile (· = '\n') body) := by
  rw [text, h]
  dsimp only
  rw [Report.result_bind]
  cases (Resolution.all s c collected).result with
  | error f => rfl
  | ok values =>
    change (Report.ofExcept (s.render values) >>= _ : Report Chars).result = (s.render values).map _
    rw [Report.result_bind]
    cases s.render values <;> rfl

/-- The filled template of a command of a built-in type. -/
def builtinBody? (c : Command) : Option Chars :=
  (Catalogue.registry.get? c.type).bind fun s => (s.render (Resolution.values s c)).toOption

theorem builtinBody?_eq_none (h : Catalogue.registry.get? c.type = none) :
    builtinBody? c = none := by
  rw [builtinBody?, h]
  rfl

/-- Whether a command gives the parameters of its built-in type, if it has one, only values that
can be written. -/
def isWritten (c : Command) : Bool := (Catalogue.registry.get? c.type).all c.isWritableFor

theorem isWritten_of_isWritable (hc : c.IsWritable) : isWritten c = true :=
  (Option.all_eq_true ..).2 fun s _ => hc.isWritableFor s

/-- The parameters of a command of a built-in type resolve, and the template is filled with
them. -/
theorem exists_builtinBody?_eq (h : Catalogue.registry.get? c.type = some s)
    (hc : isWritten c = true) (collected : Bool) :
    ∃ values body, (Resolution.all s c collected).result = .ok values ∧
      s.render values = .ok body ∧ Chars.dropEndWhile (· = '\n') body = body ∧
      builtinBody? c = some body := by
  obtain ⟨e, he, rfl⟩ := Catalogue.exists_entry_of_get? h
  rw [isWritten, h] at hc
  obtain ⟨vs, body, -, -, hv, hf, hbody⟩ := (Catalogue.sound_of_mem e he).render hc collected
  refine ⟨_, body, hv, hf, hbody, ?_⟩
  rw [builtinBody?, h, Option.bind_some, hf]
  rfl

/-- The block of a command by the built-in registry, without its indent. -/
def builtinText (c : Command) : Chars :=
  match builtinBody? c with
  | some body => known c body
  | none => unknown c

/-- **The built-in registry has a block for every command that can be written,** and for any
other fails to write it. -/
theorem result_text (c : Command) (collected : Bool) :
    (text Catalogue.registry c collected).result =
      if isWritten c then .ok (builtinText c) else .error .unwritable := by
  cases h : Catalogue.registry.get? c.type with
  | none =>
    rw [text, isWritten, h, builtinText, builtinBody?_eq_none h]
    rfl
  | some s =>
    rw [result_text_of_get? h]
    cases hc : isWritten c with
    | true =>
      obtain ⟨values, body, hv, hf, hbody, hb⟩ := exists_builtinBody?_eq h hc collected
      rw [builtinText, hb, hv]
      change (s.render values).map _ = _
      rw [hf]
      exact congrArg (fun b => Except.ok (known c b)) hbody
    | false =>
      obtain ⟨e, he, rfl⟩ := Catalogue.exists_entry_of_get? h
      rw [isWritten, h] at hc
      rw [(Catalogue.sound_of_mem e he).render_error hc collected]
      rfl

theorem result_render (c : Command) (margin : Chars) (collected : Bool) :
    (render Catalogue.registry margin c collected).result =
      if isWritten c then .ok (indent margin (builtinText c) ++ "\n\n".toList)
      else .error .unwritable := by
  rw [render, Report.result_bind, result_text]
  cases isWritten c <;> rfl

theorem result_renderAll (cs : List Command) (margin : Chars) (collected : Bool) :
    (renderAll Catalogue.registry margin cs collected).result =
      if ∀ c ∈ cs, isWritten c = true then
        .ok (cs.flatMap fun c => indent margin (builtinText c) ++ "\n\n".toList)
      else .error .unwritable := by
  rw [renderAll, Report.result_bind, Report.result_each,
    mapM_ite fun c _ => result_render c margin collected, List.flatMap_def]
  split <;> rfl

/-- Every line of such a block is in the layout of blocks. -/
theorem indent_builtinText (hc : '\n' ∉ c.type) (margin : Chars) :
    indent margin (builtinText c) ++ "\n\n".toList =
      Chars.terminated (layout margin c (builtinBody? c)) := by
  rw [builtinText]
  cases builtinBody? c with
  | none => exact indent_unknown hc margin
  | some body => exact indent_known hc margin body

/-- Blocks from the built-in registry stand one below the other. -/
theorem renderAll_eq_layout {cs : List Command} (hw : ∀ c ∈ cs, isWritten c = true)
    (hcs : ∀ c ∈ cs, '\n' ∉ c.type) (margin : Chars) (collected : Bool) :
    (renderAll Catalogue.registry margin cs collected).result =
      .ok (Chars.terminated (cs.flatMap fun c => layout margin c (builtinBody? c))) := by
  rw [result_renderAll, if_pos hw,
    List.flatMap_congr fun c hc => indent_builtinText (hcs c hc) margin, Chars.terminated,
    List.flatMap_assoc]
  rfl

end Block
end DraftScript
