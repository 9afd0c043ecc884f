/-
# Defaults that are given

A command may leave out a parameter or give it its default (`Command.GivesDefaults`).  These
are two ways through the resolution: a default that stands in is taken as it is, and one that
is given is converted to its own kind, and cut off where whole numbers are asked for.

| default | given |
| --- | --- |
| whole, of a parameter of whole numbers | itself, a zero without its sign |
| of any other parameter | itself |

So as long as the defaults of whole numbers are whole (`Schema.Regular`), both commands resolve
alike but for the sign of such a zero (`all_unsignZeros`), with the same warnings.  A way of
rendering may see the sign (`render_signed_count`); the templates of formulas do not.  Where it is
not seen, or where no such zero is given, the commands render to the same text
(`render_defaults`).
-/

import DraftScript.Proofs.Block.Warnings
import DraftScript.Proofs.Catalogue.Soundness
import DraftScript.Proofs.Resolution.Reports
import DraftScript.Proofs.Resolution.Whole
import DraftScript.Proofs.Template.Zeros

namespace DraftScript

/-- The keys that are kept keep their values. -/
theorem Assoc.get?_filter {κ ν : Type} [DecidableEq κ] (k : κ → Bool) (a : Assoc κ ν) (x : κ) :
    get? (a.filter fun q => k q.1) x = if k x then a.get? x else none := by
  induction a with
  | nil => simp [get?]
  | cons q a ih =>
    by_cases hx : q.1 = x
    · subst hx
      cases hk : k q.1 <;> simp [get?, hk, ih]
    · cases hk : k q.1 <;> simp [get?, hk, ih, hx]

/-! ## Schemas with regular defaults -/

/-- Whether the parameters of a schema have names of their own, and whole numbers as defaults
where they ask for whole numbers. -/
structure Schema.Regular (s : Schema) : Prop where
  nodup : s.parameterNames.Nodup
  isWhole : ∀ p ∈ s.parameters, p.integer = true → p.default.IsWhole

instance (s : Schema) : Decidable s.Regular :=
  decidable_of_iff (_ ∧ ∀ p ∈ s.parameters, p.integer = true → p.default.IsWhole)
    ⟨fun h => ⟨h.1, h.2⟩, fun h => ⟨h.nodup, h.isWhole⟩⟩

namespace Schema.Regular

variable {s : Schema} (hs : s.Regular) {p q : Parameter}
include hs

theorem coherent : s.Coherent := fun p hp => Parameter.coherent_of_isWhole (hs.isWhole p hp)

/-- A name tells the parameter. -/
theorem eq_of_name_eq (hp : p ∈ s.parameters) (hq : q ∈ s.parameters) (h : p.name = q.name) :
    p = q :=
  List.inj_on_of_nodup_map hs.nodup hp hq h

end Schema.Regular

/-- Whether a schema is rendered alike with and without the signs of zeros. -/
def Schema.IgnoresSigns (s : Schema) : Prop :=
  ∀ ps : Assoc Chars Value, s.render ps.unsignZeros = s.render ps

/-- **The built-in schemas are regular,** and no sign of a zero is seen in their blocks. -/
theorem Catalogue.regular_of_mem : ∀ s ∈ schemas, s.Regular ∧ s.IgnoresSigns := by
  have hregular : ∀ e ∈ entries, e.schema.Regular := by
    rw [spelled.2]
    decide +kernel
  intro s hs
  obtain ⟨e, he, rfl⟩ := List.mem_map.1 hs
  refine ⟨hregular e he, BlockTemplate.fill_unsignZeros fun d hd => ?_⟩
  obtain ⟨f, -, rfl⟩ := List.mem_map.1 hd
  exact f.2.ignoresSigns

/-! ## Commands that give defaults -/

/-- Whether a command is another one that gives parameters besides, each its default, wherever
it gives them. -/
structure Command.GivesDefaults (c : Command) (ps : List Parameter) (d : Command) : Prop where
  type : d.type = c.type
  line : d.line = c.line
  rest : (d.parameters.filter fun q => decide (q.1 ∉ ps.map (·.name))) = c.parameters
  default : ∀ p ∈ ps, d.get? p.name = some p.default

namespace Command

variable {c d : Command} {ps : List Parameter}

/-- **Parameters that are left out can be given their defaults,** behind the others. -/
theorem givesDefaults_append
    (hn : Assoc.keys (c.parameters ++ ps.map fun p => (p.name, p.default)) |>.Nodup) :
    c.GivesDefaults ps
      { c with parameters := c.parameters ++ ps.map fun p => (p.name, p.default) } where
  type := rfl
  line := rfl
  rest := by
    have hd := hn
    rw [Assoc.keys, List.map_append, List.nodup_append] at hd
    have hr : ∀ q ∈ c.parameters, decide (q.1 ∉ ps.map (·.name)) = true := fun q hq =>
      decide_eq_true fun hm => hd.2.2 q.1 (List.mem_map_of_mem hq) q.1 (by simpa using hm) rfl
    rw [List.filter_append, List.filter_eq_self.2 hr, List.append_right_eq_self,
      List.filter_eq_nil_iff]
    intro q hq
    obtain ⟨p, hp, rfl⟩ := List.mem_map.1 hq
    simpa using ⟨p, hp, rfl⟩
  default p hp := Assoc.get?_of_mem hn (List.mem_append_right _ (List.mem_map_of_mem hp))

namespace GivesDefaults

variable (h : c.GivesDefaults ps d)
include h

/-- The other command leaves them out. -/
theorem get?_eq_none {p : Parameter} (hp : p ∈ ps) : c.get? p.name = none := by
  rw [Command.get?, ← h.rest, Assoc.get?_filter (fun n => decide (n ∉ ps.map (·.name)))]
  exact if_neg (by simpa using ⟨p, hp, rfl⟩)

/-- Both give the same for all other parameters. -/
theorem get?_eq {n : Chars} (hn : n ∉ ps.map (·.name)) : d.get? n = c.get? n := by
  rw [Command.get?, Command.get?, ← h.rest,
    Assoc.get?_filter (fun n => decide (n ∉ ps.map (·.name)))]
  exact (if_pos (decide_eq_true hn)).symm

theorem undeclared_eq {s : Schema} (hps : ∀ p ∈ ps, p ∈ s.parameters) :
    Resolution.undeclared s d = Resolution.undeclared s c := by
  have hs : ∀ n ∈ ps.map (·.name), n ∈ s.parameterNames := fun n hn => by
    obtain ⟨p, hm, rfl⟩ := List.mem_map.1 hn
    exact List.mem_map_of_mem (hps p hm)
  rw [Resolution.undeclared, Resolution.undeclared, h.type, h.line, ← h.rest, List.filter_filter]
  refine congrArg (List.map _) (List.filter_congr fun q _ => ?_)
  by_cases hq : q.1 ∈ s.parameterNames
  · simp [hq]
  · simp [hq, mt (hs q.1) hq]

end GivesDefaults
end Command

/-! ## Resolving -/

/-- Whether a named value is kept as it is, or is the negative zero that a parameter of whole
numbers has as its default, and kept as the other zero, which is an equal number. -/
def Parameter.Keep (ps : List Parameter) (v w : Chars × Value) : Prop :=
  w = v ∨ ∃ p ∈ ps, p.integer = true ∧ p.default = .number (.zero true) ∧
    v = (p.name, p.default) ∧ w = (p.name, .number (.zero false))

/-- **A default that is given is taken as it is,** but for the sign of a zero that is asked for as
a whole number. -/
theorem Parameter.exists_taken?_default {p : Parameter}
    (h : p.integer = true → p.default.IsWhole) :
    ∃ v, p.taken? p.default = some v ∧ (v = p.default ∨
      p.integer = true ∧ p.default = .number (.zero true) ∧ v = .number (.zero false)) := by
  have hc : p.default.coerce? p.kind = some p.default := Value.coerce?_of_kind rfl
  rw [taken?, hc, Option.bind_some]
  split
  · next hi =>
    obtain ⟨x, hx, hw⟩ := h hi
    rw [hx, Value.whole?, hw.trunc_eq]
    refine ⟨_, rfl, ?_⟩
    rcases Binary64.eq_zero_or_unsignZero_eq x with ⟨s, rfl⟩ | hu
    · cases s with
      | false => exact .inl rfl
      | true => exact .inr ⟨hi, rfl, rfl⟩
    · exact .inl (congrArg Value.number hu)
  · exact ⟨_, rfl, .inl rfl⟩

namespace Resolution

variable {c d : Command} {s : Schema} {p : Parameter} {ps : List Parameter}

/-- Signs of zeros can be dropped from all values together or from each. -/
theorem unsignZeros_all (s : Schema) (c : Command) (collected : Bool) :
    Assoc.unsignZeros <$> all s c collected = (do
      Report.warn collected (undeclared s c)
      let vs ← Report.each (fun p => do
        return (p.name, ← Value.unsignZeros <$> parameter c p collected)) s.parameters
      return Assoc.ofPairs vs) := by
  have he (p : Parameter) :
      (do return (p.name, ← Value.unsignZeros <$> parameter c p collected) : Report _) =
        (fun q : Chars × Value => (q.1, q.2.unsignZeros)) <$>
          (do return (p.name, ← parameter c p collected) : Report _) := by
    simp [Functor.map_map]
  rw [funext he, Report.each_map, all]
  simp only [map_bind, map_pure, Assoc.mapValues_ofPairs, bind_map_left]
  rfl

variable (hs : s.Regular) (hps : ∀ p ∈ ps, p ∈ s.parameters) (h : c.GivesDefaults ps d)
include hs hps h

/-- **A parameter resolves alike,** or it asks for whole numbers, is one of those that are given
their defaults, and loses the sign of a zero. -/
theorem parameter_defaults (hp : p ∈ s.parameters) (collected : Bool) :
    parameter d p collected = parameter c p collected ∨
      p ∈ ps ∧ p.integer = true ∧ p.default = .number (.zero true) ∧
        parameter c p collected = pure (.number (.zero true)) ∧
        parameter d p collected = pure (.number (.zero false)) := by
  by_cases hm : p.name ∈ ps.map (·.name)
  · obtain ⟨q, hq, he⟩ := List.mem_map.1 hm
    obtain rfl : q = p := hs.eq_of_name_eq (hps q hq) hp he
    obtain ⟨v, ht, hv⟩ := Parameter.exists_taken?_default (hs.isWhole q hp)
    have hc := parameter_of_none (h.get?_eq_none hq) collected
    have hd := parameter_of_taken? (hs.coherent q hp) (h.default q hq) ht collected
    rcases hv with rfl | ⟨hi, hz, rfl⟩
    · exact .inl (hd.trans hc.symm)
    · exact .inr ⟨hq, hi, hz, hz ▸ hc, hd⟩
  · exact .inl (parameter_congr h.type h.line (h.get?_eq hm) collected)

/-- **Both commands resolve alike,** with the same warnings and the same log, but for the signs
of zeros. -/
theorem all_unsignZeros (collected : Bool) :
    Assoc.unsignZeros <$> all s d collected = Assoc.unsignZeros <$> all s c collected := by
  have he : ∀ p ∈ s.parameters, Value.unsignZeros <$> parameter d p collected =
      Value.unsignZeros <$> parameter c p collected := by
    intro p hp
    rcases parameter_defaults hs hps h hp collected with he | ⟨-, -, -, hc, hd⟩
    · rw [he]
    · rw [hc, hd]
      rfl
  rw [unsignZeros_all, unsignZeros_all, h.undeclared_eq hps,
    Report.each_congr fun p hp => by rw [he p hp]]

/-- Both commands resolve the same way if no zero has a sign to lose. -/
theorem all_congr_defaults
    (hz : ∀ p ∈ ps, p.integer = true → p.default ≠ .number (.zero true)) (collected : Bool) :
    all s d collected = all s c collected := by
  have he : ∀ p ∈ s.parameters, parameter d p collected = parameter c p collected := fun p hp =>
    (parameter_defaults hs hps h hp collected).resolve_right fun ⟨hm, hi, hd, _⟩ => hz p hm hi hd
  rw [all, all, h.undeclared_eq hps, Report.each_congr fun p hp => by rw [he p hp]]

/-- Both commands have the same values, but for the sign of a zero. -/
theorem value_defaults (hp : p ∈ s.parameters) :
    Parameter.Keep ps (p.name, value c p) (p.name, value d p) := by
  by_cases hm : p.name ∈ ps.map (·.name)
  · obtain ⟨q, hq, he⟩ := List.mem_map.1 hm
    obtain rfl : q = p := hs.eq_of_name_eq (hps q hq) hp he
    obtain ⟨v, ht, hv⟩ := Parameter.exists_taken?_default (hs.isWhole q hp)
    rw [value, value, h.get?_eq_none hq, h.default q hq, Option.bind_some, ht]
    rcases hv with rfl | ⟨hi, hz, rfl⟩
    · exact .inl rfl
    · exact .inr ⟨q, hq, hi, hz, rfl, rfl⟩
  · rw [value, value, h.get?_eq hm]
    exact .inl rfl

/-- Both commands resolve to such values, or fail for the same cause. -/
theorem all_defaults (collected : Bool) :
    (∃ vs ws, (all s c collected).result = .ok vs ∧ (all s d collected).result = .ok ws ∧
        List.Forall₂ (Parameter.Keep ps) vs ws) ∨
      ∃ f, (all s c collected).result = .error f ∧ (all s d collected).result = .error f := by
  have hv (c : Command) : values s c = s.parameters.map fun p => (p.name, value c p) :=
    Assoc.ofPairs_eq_self (by rw [Assoc.keys, List.map_map]; exact hs.nodup)
  have hu := congrArg Report.result (all_unsignZeros hs hps h collected)
  rw [Report.result_map, Report.result_map] at hu
  have hok {c : Command} {vs : Assoc Chars Value} (hr : (all s c collected).result = .ok vs) :
      vs = values s c := by
    rw [(all_eq hs.coherent c collected).1] at hr
    split at hr
    · cases hr
    · exact (Except.ok.inj hr).symm
  cases hc : (all s c collected).result with
  | error f =>
    cases hd : (all s d collected).result with
    | error g =>
      rw [hc, hd] at hu
      exact .inr ⟨f, rfl, congrArg Except.error (Except.error.inj hu)⟩
    | ok ws => simp [hc, hd, Except.map] at hu
  | ok vs =>
    cases hd : (all s d collected).result with
    | error g => simp [hc, hd, Except.map] at hu
    | ok ws =>
      refine .inl ⟨vs, ws, rfl, rfl, ?_⟩
      rw [hok hc, hok hd, hv, hv, List.forall₂_map_left_iff, List.forall₂_map_right_iff,
        List.forall₂_same]
      exact fun p hp => value_defaults hs hps h hp

end Resolution

/-! ## Rendering -/

namespace Block

variable {r : Registry} {c d : Command} {s : Schema} {ps : List Parameter}

/-- The block of a command is made of what its parameters resolve to. -/
theorem text_eq_of_get? (hr : r.get? c.type = some s) (collected : Bool) :
    text r c collected = (do
      let values ← Resolution.all s c collected
      let body ← Report.ofExcept (s.render values)
      return known c (Chars.dropEndWhile (· = '\n') body)) := by
  rw [text, hr]

/-- Where the signs of zeros are not seen, it is made of the values without them. -/
theorem text_eq_of_ignoresSigns (hr : r.get? c.type = some s) (hz : s.IgnoresSigns)
    (collected : Bool) : text r c collected = (do
      let values ← Assoc.unsignZeros <$> Resolution.all s c collected
      let body ← Report.ofExcept (s.render values)
      return known c (Chars.dropEndWhile (· = '\n') body)) := by
  rw [text_eq_of_get? hr, bind_map_left]
  simp only [hz _]

/-- **Giving a default is the same as leaving it out,** but for the sign of a zero.  Whichever
declared parameters a command of a regular schema leaves out, it resolves to the same values, or
fails for the same cause, as when it gives them their defaults, except that a negative zero for a
whole number loses its sign; and it has the same warnings.  It has the same text and log, unless
there is such a zero and the schema is rendered otherwise for it.  No built-in schema is, nor is a
template whose derivations do not see the signs of zeros, as formulas do not. -/
theorem render_defaults (hr : r.get? c.type = some s) (hs : s.Regular)
    (hps : ∀ p ∈ ps, p ∈ s.parameters) (h : c.GivesDefaults ps d) (margin : Chars)
    (collected : Bool) :
    ((∃ vs ws, (Resolution.all s c collected).result = .ok vs ∧
          (Resolution.all s d collected).result = .ok ws ∧
          List.Forall₂ (Parameter.Keep ps) vs ws) ∨
        ∃ f, (Resolution.all s c collected).result = .error f ∧
          (Resolution.all s d collected).result = .error f) ∧
      (render r margin d collected).warnings = (render r margin c collected).warnings ∧
      (s.IgnoresSigns ∨ (∀ p ∈ ps, p.integer = true → p.default ≠ .number (.zero true)) →
        render r margin d collected = render r margin c collected) ∧
      (∀ s ∈ Catalogue.schemas, s.Regular ∧ s.IgnoresSigns) ∧
      ∀ t : BlockTemplate, (∀ q ∈ t.derived, q.2.IgnoresSigns) → s.render = t.fill →
        s.IgnoresSigns := by
  have hu := Resolution.all_unsignZeros hs hps h collected
  have hk : known d = known c :=
    congrArg₂ (fun type line => known { type, line }) h.type h.line
  have hrd : r.get? d.type = some s := h.type ▸ hr
  refine ⟨Resolution.all_defaults hs hps h collected, ?_, ?_, Catalogue.regular_of_mem,
    fun t ht hf => ?_⟩
  · rw [warnings_render_of_get? hrd, warnings_render_of_get? hr,
      ← Report.warnings_map Assoc.unsignZeros, hu, Report.warnings_map]
  · rintro (hz | hz)
    · rw [render, render, text_eq_of_ignoresSigns hr hz, text_eq_of_ignoresSigns hrd hz, hu, hk]
    · rw [render, render, text_eq_of_get? hr, text_eq_of_get? hrd,
        Resolution.all_congr_defaults hs hps h hz, hk]
  · rw [Schema.IgnoresSigns, hf]
    exact BlockTemplate.fill_unsignZeros ht

/-- A ring that leaves out its label and its count, or gives them behind a parameter that is not
declared and one that is no number. -/
theorem render_defaults_ring :
    let count : Parameter := { name := "count", default := .number (.zero true), integer := true }
    let label : Parameter := { name := "label", default := .text "a" }
    let radius : Parameter := { name := "radius", default := .number (.ofInt 1) }
    let t : BlockTemplate := { body := "\x7blabel\x7d, \x7bcount\x7d, \x7bradius\x7d" }
    let s : Schema := { type := "RING", parameters := [count, label, radius], render := t.fill }
    let r : Registry := .ofList [s]
    let c : Command := ⟨"RING", [("hue", .text "x"), ("radius", .text "two")], 3⟩
    let d : Command := ⟨"RING", [("hue", .text "x"), ("radius", .text "two"),
      ("label", .text "a"), ("count", .number (.zero true))], 3⟩
    r.get? c.type = some s ∧ s.Regular ∧ (∀ p ∈ [label, count], p ∈ s.parameters) ∧
      c.GivesDefaults [label, count] d ∧ s.IgnoresSigns ∧
      (render r [] c).result = .ok "// RING command (line 3)\n\x7b\n    a, 0, 1\n\x7d\n\n" ∧
      render r [] d = render r [] c := by
  intro count label radius t s r c d
  have hr : r.get? c.type = some s := rfl
  have hs : s.Regular := by decide +kernel
  have hps : ∀ p ∈ [label, count], p ∈ s.parameters := by decide +kernel
  have h : c.GivesDefaults [label, count] d := Command.givesDefaults_append (by decide)
  obtain ⟨-, -, he, -, ht⟩ := render_defaults hr hs hps h [] true
  have hz : s.IgnoresSigns := ht t (fun q hq => absurd hq List.not_mem_nil) rfl
  exact ⟨hr, hs, hps, h, hz, by decide +kernel, he (.inl hz)⟩

/-- A count that is shown with its sign. -/
theorem render_signed_count :
    let count : Parameter := { name := "n", default := .number (.zero true), integer := true }
    let signed (ps : Assoc Chars Value) : Except RenderFault Chars :=
      .ok (if ps.get? "n" = some (.number (.zero true)) then "-0.0" else "0.0")
    let s : Schema := { type := "P", parameters := [count], render := signed }
    let r : Registry := .ofList [s]
    let c : Command := ⟨"P", [], 1⟩
    let d : Command := ⟨"P", [("n", .number (.zero true))], 1⟩
    s.Regular ∧ c.GivesDefaults [count] d ∧
      (Resolution.all s c).result = .ok [("n", .number (.zero true))] ∧
      (Resolution.all s d).result = .ok [("n", .number (.zero false))] ∧
      (render r [] c).result = .ok "// P command (line 1)\n\x7b\n    -0.0\n\x7d\n\n" ∧
      (render r [] d).result = .ok "// P command (line 1)\n\x7b\n    0.0\n\x7d\n\n" := by
  intro count signed s r c d
  have hs : s.Regular := by decide +kernel
  have h : c.GivesDefaults [count] d := Command.givesDefaults_append (by decide)
  exact ⟨hs, h, by decide +kernel, by decide +kernel, by decide +kernel, by decide +kernel⟩

end Block
end DraftScript
