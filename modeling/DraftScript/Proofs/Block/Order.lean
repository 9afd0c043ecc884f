/-
# Blocks of commands with reordered parameters

Resolving, warning and filling a template look parameters up by name, so they cannot tell
the order in which these were written.  One thing can: the warnings of undeclared parameters
(`W103`) come in the order of the command.  All other warnings come in the order of the
schema.  So the blocks of two reordered commands are the same text, or fail with the same
fault, and their warnings are `Shuffled`: the same ones, but for the order of `W103`.

With what holds of the lines (`Line.exists_reordered`) it does not matter in which order
closed fields with different names are written (`render_reordered_fields`).
-/

import DraftScript.Block
import DraftScript.Catalogue
import DraftScript.Proofs.Line.Order
import DraftScript.Proofs.Resolution.Values

namespace DraftScript

/-! ## Warnings up to the order of one code -/

/-- Whether two lists of warnings differ at most in the order of those with a code among
themselves. -/
structure Diagnostics.Shuffled (code : Chars) (ds es : Diagnostics) : Prop where
  others : ds.filter (·.code ≠ code) = es.filter (·.code ≠ code)
  coded : (ds.filter (·.code = code)).Perm (es.filter (·.code = code))

namespace Diagnostics.Shuffled

variable {code : Chars} {ds es : Diagnostics}

theorem refl (code : Chars) (ds : Diagnostics) : Shuffled code ds ds := ⟨rfl, .refl _⟩

/-- Warnings that all have the code may be shuffled. -/
theorem of_perm (h : ds.Perm es) (hd : ∀ d ∈ ds, d.code = code) : Shuffled code ds es := by
  have he : ∀ e ∈ es, e.code = code := fun e he => hd e (h.mem_iff.2 he)
  refine ⟨?_, h.filter _⟩
  rw [List.filter_eq_nil_iff.2 (by simpa using hd), List.filter_eq_nil_iff.2 (by simpa using he)]

/-- What comes behind does not change that. -/
theorem append_right (h : Shuffled code ds es) (fs : Diagnostics) :
    Shuffled code (ds ++ fs) (es ++ fs) := by
  constructor
  · rw [List.filter_append, List.filter_append, h.others]
  · rw [List.filter_append, List.filter_append]
    exact h.coded.append_right _

end Diagnostics.Shuffled

/-- Whether two reports have the same result, and the same warnings up to the order of those
with a code. -/
structure Report.Shuffled {α : Type} (code : Chars) (r s : Report α) : Prop where
  result : r.result = s.result
  warnings : Diagnostics.Shuffled code r.warnings s.warnings

/-- What goes on from the result alone goes on alike. -/
theorem Report.Shuffled.bind {α β : Type} {code : Chars} {r s : Report α} (h : r.Shuffled code s)
    (f : α → Report β) : (r >>= f).Shuffled code (s >>= f) := by
  cases hr : r.result with
  | error e =>
    rw [bind_eq_of_error hr, bind_eq_of_error (h.result ▸ hr)]
    exact ⟨rfl, h.warnings⟩
  | ok a =>
    rw [bind_eq_of_ok hr, bind_eq_of_ok (h.result ▸ hr)]
    exact ⟨rfl, h.warnings.append_right _⟩

namespace Command.Reordered

variable {c d : Command} (h : c.Reordered d)
include h

/-! ## Resolving -/

/-- A parameter is looked up by its name. -/
theorem parameter_eq (p : Parameter) :
    Resolution.parameter c p = Resolution.parameter d p :=
  Resolution.parameter_congr h.type h.line (h.get?_eq p.name) true

/-- Undeclared parameters are warned of in the order of the command. -/
theorem perm_undeclared (s : Schema) :
    (Resolution.undeclared s c).Perm (Resolution.undeclared s d) := by
  rw [Resolution.undeclared, Resolution.undeclared, h.type, h.line]
  exact (h.parameters.filter _).map _

/-- **Reordered parameters resolve to the same values.** -/
theorem shuffled_all (s : Schema) :
    (Resolution.all s c).Shuffled "W103" (Resolution.all s d) := by
  have hw : ∀ w ∈ Resolution.undeclared s c, w.code = "W103" := by
    intro w hw
    obtain ⟨q, -, rfl⟩ := List.mem_map.1 hw
    rfl
  have hs : (Report.warn true (Resolution.undeclared s c)).Shuffled "W103"
      (Report.warn true (Resolution.undeclared s d)) := ⟨rfl, .of_perm (h.perm_undeclared s) hw⟩
  simp only [Resolution.all, h.parameter_eq]
  exact hs.bind _

/-! ## Rendering -/

/-- A header shows the type and the line only. -/
theorem header_eq : Block.header c = Block.header d :=
  congrArg₂ (fun type line => Block.header { type, line }) h.type h.line

/-- **Reordered commands are rendered alike.** -/
theorem shuffled_render (r : Registry) (margin : Chars) :
    (Block.render r margin c).Shuffled "W103" (Block.render r margin d) := by
  refine .bind ?_ _
  rw [Block.text, Block.text, h.type]
  split
  · simp only [Block.unknown, h.header_eq, h.type, h.line]
    exact ⟨rfl, .refl ..⟩
  · simp only [Block.known, h.header_eq]
    exact (h.shuffled_all _).bind _

end Command.Reordered

namespace Block

variable {name blanks : Chars} {fs gs : List Chars}

/-- **The order in which parameters are written does not matter.**  In any order of
independent fields both lines are refused, or give commands with the same type, line and
values by name; and these are rendered from any registry to the same text or fault, from the
same resolved values, with the same warnings in the same order but for the order of those of
undeclared parameters. -/
theorem render_reordered_fields (hn : isName name = true)
    (hb : ∀ c ∈ blanks, Chars.isBlank c = true) (h : Field.Independent fs) (hp : fs.Perm gs)
    (v : Variables) (line : ℤ) :
    ((∃ e, (Line.read v (Line.invocationText name blanks fs) line).result = .error e) ∧
      ∃ e, (Line.read v (Line.invocationText name blanks gs) line).result = .error e) ∨
    ∃ c d, (Line.read v (Line.invocationText name blanks fs) line).result = .ok (some c) ∧
      (Line.read v (Line.invocationText name blanks gs) line).result = .ok (some d) ∧
      c.type = d.type ∧ c.line = d.line ∧ (∀ n, c.get? n = d.get? n) ∧ c.same d = true ∧
      ∀ (r : Registry) (margin : Chars),
        (∀ s, r.get? c.type = some s →
          (Resolution.all s c).result = (Resolution.all s d).result) ∧
        (render r margin c).result = (render r margin d).result ∧
        (render r margin c).warnings.filter (·.code ≠ ("W103" : Chars)) =
          (render r margin d).warnings.filter (·.code ≠ ("W103" : Chars)) ∧
        ((render r margin c).warnings.filter (·.code = ("W103" : Chars))).Perm
          ((render r margin d).warnings.filter (·.code = ("W103" : Chars))) := by
  cases hf : (Line.read v (Line.invocationText name blanks fs) line).result with
  | error e =>
    refine .inl ⟨⟨e, rfl⟩, ?_⟩
    cases hg : (Line.read v (Line.invocationText name blanks gs) line).result with
    | error e' => exact ⟨e', rfl⟩
    | ok r =>
      obtain ⟨-, d, -, hd, -⟩ := Line.exists_reordered hn hb (h.perm hp) hp.symm hg
      rw [hd] at hf
      cases hf
  | ok r =>
    obtain ⟨c, d, rfl, hg, hcd, hs⟩ := Line.exists_reordered hn hb h hp hf
    refine .inr ⟨c, d, rfl, hg, hcd.type, hcd.line, hcd.get?_eq, hs, fun r margin => ?_⟩
    have hr := hcd.shuffled_render r margin
    exact ⟨fun s _ => (hcd.shuffled_all s).result, hr.result, hr.warnings.others,
      hr.warnings.coded⟩

/-- A sphere with commas inside brackets and quotes, two undeclared parameters and a text
where a number is asked for, and the same fields backwards. -/
theorem render_reordered_fields_sphere :
    let fs : List Chars := ["center=[1, 2,3]", "tint=$t", " radius = \"a,b\"", "glow=true"]
    let c : Command := ⟨"SPHERE", [("center", .point (.ofInt 1) (.ofInt 2) (.ofInt 3)),
      ("tint", .text "$t"), ("radius", .text "a,b"), ("glow", .boolean true)], 2⟩
    let d : Command := ⟨"SPHERE", c.parameters.reverse, 2⟩
    isName "Sphere" = true ∧ (∀ b ∈ [' '], Chars.isBlank b = true) ∧
      Field.Independent fs ∧ fs.Perm fs.reverse ∧
      (Line.read {} (Line.invocationText "Sphere" [' '] fs) 2).result = .ok (some c) ∧
      (Line.read {} (Line.invocationText "Sphere" [' '] fs.reverse) 2).result = .ok (some d) ∧
      (render Catalogue.registry "  " c).result = (render Catalogue.registry "  " d).result := by
  intro fs c d
  have hn : isName "Sphere" = true := by decide
  have hb : ∀ b ∈ [' '], Chars.isBlank b = true := List.forall_mem_singleton.2 rfl
  have hi : Field.Independent fs := by decide +kernel
  have hp : fs.Perm fs.reverse := (List.reverse_perm fs).symm
  have hf : (Line.read {} (Line.invocationText "Sphere" [' '] fs) 2).result = .ok (some c) := by
    decide +kernel
  have hg : (Line.read {} (Line.invocationText "Sphere" [' '] fs.reverse) 2).result =
      .ok (some d) := by
    decide +kernel
  refine ⟨hn, hb, hi, hp, hf, hg, ?_⟩
  rcases render_reordered_fields hn hb hi hp {} 2 with ⟨⟨e, he⟩, -⟩ | h
  · cases hf.symm.trans he
  · obtain ⟨c', d', hf', hg', -, -, -, -, h⟩ := h
    obtain rfl : c = c' := Option.some.inj (Except.ok.inj (hf.symm.trans hf'))
    obtain rfl : d = d' := Option.some.inj (Except.ok.inj (hg.symm.trans hg'))
    exact (h Catalogue.registry "  ").2.1

end Block
end DraftScript
