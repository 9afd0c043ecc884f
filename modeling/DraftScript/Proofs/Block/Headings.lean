/-
# The headings of a drawing

A heading is a line that begins with `// ` and ends with a closing parenthesis, such as the
header of a block.  In the blocks of a script there are no others: what a command gives
stands behind the indent of its body, and the marker of an unregistered type ends with the
type, which is a name.  So the types and lines of the commands can be told from the text,
whatever texts, unregistered types or unusable values the script holds
(`headings_renderAll`).  A script gives nothing that is too long to be written, so there always is
a text.
-/

import DraftScript.Proofs.Block.Layout
import DraftScript.Proofs.Script.Writable

namespace DraftScript
namespace Block

variable {c : Command}

/-! ## Headings -/

/-- Whether a line looks like the header of a block. -/
def isHeading (l : Chars) : Bool := Chars.startsWith l "// " && Chars.endsWith l ")"

/-- The type and line that a header tells. -/
def readHeader? (l : Chars) : Option (Chars × ℤ) :=
  match Chars.splitOn ' ' l with
  | [_, type, _, _, n] => (WholeNumeral.read? n.dropLast).map fun n => (type, n.toInt)
  | _ => none

/-- The types and lines that the headings of a text tell. -/
def readBack (t : Chars) : List (Chars × ℤ) :=
  ((Chars.lines t).filter isHeading).filterMap readHeader?

theorem isHeading_header (c : Command) : isHeading (header c) = true := by
  rw [isHeading, Bool.and_eq_true, Chars.startsWith, Chars.endsWith, List.isPrefixOf_iff_prefix,
    List.isSuffixOf_iff_suffix]
  exact ⟨⟨c.type ++ " command (line " ++ Chars.ofInt c.line ++ ")", by simp [header_eq]⟩,
    ⟨"// " ++ c.type ++ " command (line " ++ Chars.ofInt c.line, rfl⟩⟩

/-- A line that does not begin with a slash is no heading. -/
theorem isHeading_of_head? {l : Chars} (h : l.head? ≠ some '/') : isHeading l = false := by
  rw [Bool.eq_false_iff]
  intro hl
  rw [isHeading, Bool.and_eq_true, Chars.startsWith, List.isPrefixOf_iff_prefix] at hl
  obtain ⟨r, rfl⟩ := hl.1
  exact h rfl

/-- A line that does not end with a parenthesis is no heading. -/
theorem isHeading_of_getLast? {l : Chars} (h : l.getLast? ≠ some ')') : isHeading l = false := by
  rw [Bool.eq_false_iff]
  intro hl
  rw [isHeading, Bool.and_eq_true, Chars.endsWith, List.isSuffixOf_iff_suffix] at hl
  obtain ⟨r, rfl⟩ := hl.2
  exact h (List.getLast?_concat)

/-- The marker of a type is no heading. -/
theorem isHeading_marker (hc : ')' ∉ c.type) :
    isHeading ("// Unknown command: ".toList ++ c.type) = false := by
  refine isHeading_of_getLast? fun hl => ?_
  rcases List.mem_append.1 (List.mem_of_getLast? hl) with h | h
  · exact absurd h (by decide)
  · exact hc h

/-- The header is the only heading of a block. -/
theorem filter_layout (hc : ')' ∉ c.type) (body : Option Chars) :
    (layout [] c body).filter isHeading = [header c] := by
  have he : isHeading [] = false := rfl
  cases body with
  | none =>
    simp only [layout, List.nil_append, List.filter_cons, List.filter_nil, isHeading_header,
      isHeading_marker hc, he, if_true, Bool.false_eq_true, if_false]
  | some body =>
    have hbody : ((Chars.lines body).map (indentLine bodyIndent)).filter isHeading = [] := by
      rw [List.filter_eq_nil_iff]
      intro l hl
      obtain ⟨k, -, rfl⟩ := List.mem_map.1 hl
      rw [Bool.not_eq_true]
      refine isHeading_of_head? ?_
      by_cases hk : k = []
      · simp [hk, indentLine]
      · have hs : (bodyIndent ++ k).head? = some ' ' := rfl
        rw [indentLine_of_ne_nil hk, hs]
        decide
    have ho : isHeading ['\x7b'] = false := by decide
    have hk : isHeading ['\x7d'] = false := by decide
    simp [layout, isHeading_header, hbody, ho, hk, he]

/-- A header tells the type, if that has no spaces, and the line. -/
theorem readHeader?_header (hc : ' ' ∉ c.type) : readHeader? (header c) = some (c.type, c.line) := by
  have hn : ' ' ∉ Chars.ofInt c.line ++ [')'] := by
    simp [(isNumeralText_ofInt c.line).not_mem (d := ' ') rfl]
  have hh : header c = ['/', '/'] ++ ' ' :: (c.type ++ ' ' :: ("command".toList ++ ' ' ::
      ("(line".toList ++ ' ' :: (Chars.ofInt c.line ++ [')'])))) := by
    simp [header_eq]
  rw [readHeader?, hh, Chars.splitOn_append (by decide), Chars.splitOn_append hc,
    Chars.splitOn_append (by decide), Chars.splitOn_append (by decide), Chars.splitOn_of_not_mem hn]
  dsimp only
  rw [List.dropLast_concat, Literal.read?_ofInt, Option.map_some, Literal.toInt_ofInt]

/-! ## The headings of a script -/

/-- If the types are names, the headings of blocks are their headers, and tell the types and
lines. -/
theorem headings_of_isName {cs : List Command} (hw : ∀ c ∈ cs, isWritten c = true)
    (hcs : ∀ c ∈ cs, isName c.type = true) (collected : Bool) :
    ∃ t, (renderAll Catalogue.registry [] cs collected).result = .ok t ∧
      (Chars.lines t).filter isHeading = cs.map header ∧
      readBack t = cs.map fun c => (c.type, c.line) := by
  have hmem : ∀ c ∈ cs, ∀ d, isNameChar d = false → d ∉ c.type := fun c hc d hd =>
    not_mem_of_isName (hcs c hc) hd
  have hlines : ∀ l ∈ cs.flatMap fun c => layout [] c (builtinBody? c), '\n' ∉ l := by
    intro l hl
    obtain ⟨c, hc, hl⟩ := List.mem_flatMap.1 hl
    exact not_mem_of_mem_layout (hmem c hc _ rfl) List.not_mem_nil hl
  have hfilter : (Chars.lines (Chars.terminated (cs.flatMap fun c =>
      layout [] c (builtinBody? c)))).filter isHeading = cs.map header := by
    rw [Chars.lines_terminated hlines, List.filter_append, List.filter_flatMap,
      List.flatMap_congr fun c hc => filter_layout (hmem c hc _ rfl) _, ← List.map_eq_flatMap]
    exact List.append_nil _
  refine ⟨_, renderAll_eq_layout hw (fun c hc => hmem c hc _ rfl) [] collected, hfilter, ?_⟩
  have hread : ∀ c ∈ cs, (readHeader? ∘ header) c = some (c.type, c.line) := fun c hc =>
    readHeader?_header (hmem c hc _ rfl)
  rw [readBack, hfilter, List.filterMap_map, List.filterMap_congr hread]
  exact congrFun List.filterMap_eq_map _

/-- **The headings of a script's blocks tell its commands.**  The commands of a script are
rendered from the built-in registry, and those lines of the text that look like headers are
the headers of the commands, in order, from which the types and lines can be read back.  The
type of a command is a name in capitals, which the line of its number invokes. -/
theorem headings_renderAll (filename : Option Chars) (v : Variables) (source : Chars)
    (collected : Bool) :
    let cs := (Script.read filename v source).commands
    (∃ t, (renderAll Catalogue.registry [] cs collected).result = .ok t ∧
      (Chars.lines t).filter isHeading = cs.map header ∧
      readBack t = cs.map fun c => (c.type, c.line)) ∧
    ∀ c ∈ cs, isName c.type = true ∧ c.type.map Char.toUpper = c.type ∧
      ∃ (i : ℕ) (l name arguments : Chars), (Chars.lines source)[i]? = some l ∧ c.line = i + 1 ∧
        LineForm.IsInvocation (Chars.trim l) name arguments ∧ c.type = name.map Char.toUpper := by
  intro cs
  have hinvoked : ∀ c ∈ cs, ∃ (i : ℕ) (l name arguments : Chars),
      (Chars.lines source)[i]? = some l ∧ c.line = i + 1 ∧
        LineForm.IsInvocation (Chars.trim l) name arguments ∧ c.type = name.map Char.toUpper := by
    intro c hc
    have hc : c ∈ (Script.read filename v source).commands := hc
    rw [Script.commands_read] at hc
    simpa using Script.invocation_of_mem_readLines hc
  have hname : ∀ c ∈ cs, isName c.type = true ∧ c.type.map Char.toUpper = c.type := by
    intro c hc
    obtain ⟨_, _, name, arguments, -, -, hi, ht⟩ := hinvoked c hc
    rw [ht]
    exact ⟨isName_map_toUpper hi.1, map_toUpper_map_toUpper hi.1⟩
  have hwritten : ∀ c ∈ cs, isWritten c = true := fun c hc =>
    isWritten_of_isWritable (Script.isWritable_of_mem hc)
  exact ⟨headings_of_isName hwritten (fun c hc => (hname c hc).1) collected,
    fun c hc => ⟨(hname c hc).1, (hname c hc).2, hinvoked c hc⟩⟩

/-- What is indented and the marker of a type tell no command. -/
example : readBack "// A command (line 3)\n    // B command (line 4)\n// Unknown command: C" =
    [("A".toList, 3)] := by decide +kernel

end Block
end DraftScript
