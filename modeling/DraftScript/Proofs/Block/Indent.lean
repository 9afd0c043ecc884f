/-
# Indented blocks

An indent is put before every line that is not empty, so it goes through what is made of
whole lines.  Texts joined by a line feed are indented one by one (`indent_append_cons`), and
each block ends with an empty line: it makes no difference whether blocks are rendered with
an indent or indented afterwards, all together (`renderAll_eq_map_indent`).  Two indents are one,
the outer before the inner (`indent_indent`).

The lines of a block are, line by line behind the indent (`IsBlock`),

| type | lines |
| --- | --- |
| registered | the header, `{`, the lines of the body four spaces further in, `}`, an empty line |
| other | the header, a marker, an empty line |

whatever line feeds the indent, the type, the rendered body and the values hold.
-/

import DraftScript.Proofs.Block.Layout
import DraftScript.Proofs.Resolution.Reports

namespace DraftScript
namespace Block

variable {r : Registry} {c : Command} {margin : Chars}

/-! ## Indenting twice, and indenting joined texts -/

theorem indentLine_nil (l : Chars) : indentLine [] l = l := by
  by_cases h : l = []
  · rw [h]
    rfl
  · rw [indentLine_of_ne_nil h, List.nil_append]

theorem indent_nil (t : Chars) : indent [] t = t := by
  rw [indent_eq, List.map_congr_left fun l _ => indentLine_nil l, List.map_id']
  exact Chars.intercalate_splitOn '\n' t

/-- An indented text with a line feed behind it, in whole lines. -/
theorem indent_concat (margin t : Chars) :
    indent margin t ++ ['\n'] = Chars.terminated ((Chars.lines t).map (indentLine margin)) := by
  rw [indent_eq, Chars.terminated_eq (mt List.map_eq_nil_iff.1 (Chars.lines_ne_nil t))]

/-- **Texts with a line feed between them are indented one by one.** -/
theorem indent_append_cons (margin s t : Chars) :
    indent margin (s ++ '\n' :: t) = indent margin s ++ '\n' :: indent margin t := by
  have hl : Chars.lines (s ++ '\n' :: t) = Chars.lines s ++ Chars.lines t :=
    Chars.splitOn_append_cons '\n' s t
  have hc : indent margin (s ++ '\n' :: t) ++ ['\n'] =
      indent margin s ++ '\n' :: indent margin t ++ ['\n'] := by
    rw [indent_concat, hl, List.map_append, Chars.terminated_append, ← indent_concat,
      ← indent_concat]
    simp
  exact List.append_cancel_right hc

/-- **An indent without a line feed and another before it are one indent.** -/
theorem indent_indent {inner : Chars} (h : '\n' ∉ inner) (outer t : Chars) :
    indent outer (indent inner t) = indent (outer ++ inner) t := by
  rw [indent_eq, lines_indent h, List.map_map, indent_eq]
  refine congrArg Chars.unlines (List.map_congr_left fun l _ => ?_)
  exact indentLine_indentLine outer inner l

/-! ## Indenting blocks -/

/-- Texts, each with an empty line behind it. -/
def spaced (ts : List Chars) : Chars := ts.flatMap (· ++ "\n\n".toList)

/-- Blocks are indented one by one. -/
theorem indent_spaced (margin : Chars) (ts : List Chars) :
    indent margin (spaced ts) = spaced (ts.map (indent margin)) := by
  induction ts with
  | nil => rfl
  | cons t ts ih =>
    have hs : spaced (t :: ts) = t ++ '\n' :: ([] ++ '\n' :: spaced ts) := by
      simp [spaced]
    rw [hs, indent_append_cons, indent_append_cons, ih]
    simp [spaced, indent_eq, Chars.lines, Chars.splitOn, indentLine, Chars.unlines]

theorem renderAll_eq_map_spaced (r : Registry) (margin : Chars) (cs : List Command)
    (collected : Bool) : renderAll r margin cs collected =
      (fun ts => spaced (ts.map (indent margin))) <$>
        Report.each (fun c => text r c collected) cs := by
  have hr : (fun c => render r margin c collected) =
      fun c => (fun t => indent margin t ++ "\n\n".toList) <$> text r c collected := by
    funext c
    rw [render, bind_pure_comp]
  rw [renderAll, hr, Report.each_map, bind_pure_comp, Functor.map_map]
  simp only [spaced, List.flatMap_def, List.map_map, Function.comp_def]

/-- **Blocks rendered with an indent are the blocks, indented.** -/
theorem renderAll_eq_map_indent (r : Registry) (margin : Chars) (cs : List Command)
    (collected : Bool) :
    renderAll r margin cs collected = indent margin <$> renderAll r [] cs collected := by
  have hn : indent [] = id := funext indent_nil
  rw [renderAll_eq_map_spaced, renderAll_eq_map_spaced, Functor.map_map]
  simp only [indent_spaced, hn, List.map_id]

/-! ## The lines of a block -/

/-- The lines of the block of a command behind an indent, the empty one at its end among them. -/
inductive IsBlock (r : Registry) (margin : Chars) (c : Command) : List Chars → Prop
  | known {s : Schema} {values : Assoc Chars Value} {body : Chars}
      (hs : r.get? c.type = some s) (hv : (Resolution.all s c).result = .ok values)
      (hf : s.render values = .ok body) : IsBlock r margin c
        ((Chars.lines (header c)).map (indentLine margin) ++ [margin ++ ['\x7b']] ++
          (Chars.lines (Chars.dropEndWhile (· = '\n') body)).map
            (indentLine (margin ++ bodyIndent)) ++ [margin ++ ['\x7d'], []])
  | unknown (hs : r.get? c.type = none) : IsBlock r margin c
        ((Chars.lines (header c)).map (indentLine margin) ++
          (Chars.lines ("// Unknown command: ".toList ++ c.type)).map (indentLine margin) ++ [[]])

/-- A block that is rendered has such lines. -/
theorem exists_isBlock {collected : Bool} {t : Chars}
    (h : (text r c collected).result = .ok t) (margin : Chars) :
    ∃ ls, IsBlock r margin c ls ∧ indent margin t ++ "\n\n".toList = Chars.terminated ls := by
  rw [text] at h
  split at h
  · next hs =>
    obtain rfl := Except.ok.inj h
    refine ⟨_, .unknown hs, ?_⟩
    rw [indent_append, lines_unknown, List.map_append]
  · next s hs =>
    rw [Report.result_bind, (Resolution.agree_all s c collected true).result] at h
    obtain ⟨values, hv, h⟩ := exists_of_bind_eq_ok h
    rw [Report.result_bind] at h
    obtain ⟨body, hf, h⟩ := exists_of_bind_eq_ok h
    obtain rfl := Except.ok.inj h
    refine ⟨_, .known hs hv hf, ?_⟩
    rw [indent_append, lines_known]
    simp [indentLine_of_ne_nil, indentLine_indentLine, Function.comp_def]

/-- Blocks stand one below the other. -/
theorem exists_forall₂_isBlock {cs : List Command} {ts : List Chars} {collected : Bool}
    (h : List.Forall₂ (fun c t => (text r c collected).result = .ok t) cs ts) (margin : Chars) :
    ∃ bs, List.Forall₂ (IsBlock r margin) cs bs ∧
      spaced (ts.map (indent margin)) = Chars.terminated bs.flatten := by
  induction h with
  | nil => exact ⟨[], .nil, rfl⟩
  | @cons c t cs ts hc _ ih =>
    obtain ⟨ls, hls, ht⟩ := exists_isBlock hc margin
    obtain ⟨bs, hbs, hts⟩ := ih
    refine ⟨ls :: bs, .cons hls hbs, ?_⟩
    rw [List.flatten_cons, Chars.terminated_append, ← ht, ← hts]
    rfl

/-- **An indent goes before every line of every block that is not empty.**  Blocks rendered
with it are the blocks, indented, or fail for the same cause; an indent without a line feed
and one before it are one; and rendered blocks are texts of whole lines, of which those of the
bodies stand behind the indent and four spaces. -/
theorem renderAll_indent (r : Registry) (margin : Chars) (cs : List Command) (collected : Bool) :
    (renderAll r margin cs collected).result =
        (renderAll r [] cs collected).result.map (indent margin) ∧
      (∀ inner outer t : Chars, '\n' ∉ inner →
        indent outer (indent inner t) = indent (outer ++ inner) t) ∧
      ∀ t, (renderAll r margin cs collected).result = .ok t →
        ∃ bs, List.Forall₂ (IsBlock r margin) cs bs ∧ t = Chars.terminated bs.flatten := by
  refine ⟨?_, fun inner outer t h => indent_indent h outer t, fun t h => ?_⟩
  · rw [renderAll_eq_map_indent, Report.result_map]
  · rw [renderAll_eq_map_spaced, Report.result_map, Report.result_each] at h
    cases hm : cs.mapM fun c => (text r c collected).result with
    | error e =>
      rw [hm] at h
      cases h
    | ok ts =>
      rw [hm] at h
      obtain rfl := Except.ok.inj h
      exact exists_forall₂_isBlock (mapM_eq_ok_iff.1 hm) margin

/-- A text with an empty line, of a type whose template ends with a line feed, and a type that is
not registered, behind an indent that is a line of its own and a tab. -/
theorem renderAll_indent_note :
    let s : Schema := { type := "NOTE", parameters := [{ name := "text", default := .text [] }],
                        render := BlockTemplate.fill { body := "\x7btext\x7d\n" } }
    let r : Registry := .ofList [s]
    let cs : List Command := [⟨"NOTE", [("text", .text "A\n\nB")], 1⟩, ⟨"CUBE", [], 2⟩]
    let t : Chars := "// NOTE command (line 1)\n\x7b\n    A\n\n    B\n\x7d\n\n" ++
      "// CUBE command (line 2)\n// Unknown command: CUBE\n\n"
    let margin : Chars := ".\n\t"
    (renderAll r [] cs).result = .ok t ∧
      (renderAll r margin cs).result = .ok (indent margin t) ∧
      '\n' ∉ "  ".toList ∧ indent margin (indent "  " t) = indent (margin ++ "  ") t ∧
      ∃ bs, List.Forall₂ (IsBlock r margin) cs bs ∧
        indent margin t = Chars.terminated bs.flatten := by
  intro s r cs t margin
  have ht : (renderAll r [] cs).result = .ok t := by decide +kernel
  have hn : '\n' ∉ "  ".toList := by decide
  obtain ⟨hr, hi, hb⟩ := renderAll_indent r margin cs true
  rw [ht] at hr
  exact ⟨ht, hr, hn, hi _ margin t hn, hb _ hr⟩

end Block
end DraftScript
