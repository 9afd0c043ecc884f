/-
# The braces of a document

The default header opens four braces, the default footer closes them, and every block opens
and closes its own.  What stands between them is the template of a built-in type, which is
balanced in itself, filled with values.  A value has braces only if it is a text with braces:

| value | shown as |
| --- | --- |
| number, point, vector, color | numerals, commas and spaces, `inf`, `nan` |
| boolean | `true`, `false` |
| text | its characters |

So a document is balanced whatever its commands give, as long as their types and texts, and
the names and the indent in the settings, have no braces (`balanced_render`).  There is none where
a command gives what cannot be written, or a name cannot be described.
-/

import DraftScript.Document
import DraftScript.Proofs.Block.Layout
import DraftScript.Proofs.Chars.Braces
import DraftScript.Proofs.Steps

namespace DraftScript

/-! ## Values without braces -/

section Numerals

variable {t : Chars}

theorem IsNumeralText.isBraceless (h : IsNumeralText t) : Chars.IsBraceless t :=
  ⟨h.not_mem rfl, h.not_mem rfl⟩

theorem Binary64.isBraceless_compact (x : Binary64) : Chars.IsBraceless x.compact := by
  cases x with
  | nan => decide
  | infinity s => cases s <;> decide
  | finite s m e h => exact (isNumeralText_compact rfl).isBraceless

theorem Chars.IsBraceless.triple {a b c : Chars} (ha : IsBraceless a) (hb : IsBraceless b)
    (hc : IsBraceless c) : IsBraceless (Value.triple a b c) := by
  have hs : IsBraceless ", ".toList := by decide
  constructor
  · simp only [Value.triple, List.mem_append, ha.1, hb.1, hc.1, hs.1, or_self, not_false_eq_true]
  · simp only [Value.triple, List.mem_append, ha.2, hb.2, hc.2, hs.2, or_self, not_false_eq_true]

end Numerals

/-- Whether a view and its parts are texts without braces. -/
structure View.IsBraceless (v : View) : Prop where
  text : Chars.IsBraceless v.text
  parts : ∀ p ∈ v.parts, Chars.IsBraceless p.2

theorem View.isBraceless_ofTriple {a b c x y z : Chars} (hx : Chars.IsBraceless x)
    (hy : Chars.IsBraceless y) (hz : Chars.IsBraceless z) :
    (ofTriple a b c x y z).IsBraceless := by
  refine ⟨hx.triple hy hz, fun p hp => ?_⟩
  simp only [ofTriple, List.mem_cons, List.not_mem_nil, or_false] at hp
  rcases hp with rfl | rfl | rfl
  · exact hx
  · exact hy
  · exact hz

namespace Value

variable {v w : Value} {k : Kind}

/-- Whether a value is no text with braces. -/
def IsBraceless : Value → Prop
  | text t => Chars.IsBraceless t
  | _ => True

instance : DecidablePred IsBraceless
  | text t => inferInstanceAs (Decidable (Chars.IsBraceless t))
  | number _ | boolean _ | point .. | vector .. | color .. => inferInstanceAs (Decidable True)

/-- **Only the braces of a text are shown.** -/
theorem IsBraceless.display (h : v.IsBraceless) : v.display.IsBraceless := by
  cases v with
  | number x => exact ⟨x.isBraceless_compact, fun _ hp => absurd hp List.not_mem_nil⟩
  | text t => exact ⟨h, fun _ hp => absurd hp List.not_mem_nil⟩
  | boolean b =>
    refine ⟨?_, fun _ hp => absurd hp List.not_mem_nil⟩
    cases b <;> decide
  | point x y z | vector x y z =>
    exact View.isBraceless_ofTriple x.isBraceless_compact y.isBraceless_compact
      z.isBraceless_compact
  | color r g b =>
    exact View.isBraceless_ofTriple (isNumeralText_ofInt r).isBraceless
      (isNumeralText_ofInt g).isBraceless (isNumeralText_ofInt b).isBraceless

/-- No conversion makes braces. -/
theorem IsBraceless.coerce? (h : v.IsBraceless) (hw : v.coerce? k = some w) : w.IsBraceless := by
  unfold Value.coerce? at hw
  split at hw
  · rwa [← Option.some.inj hw]
  · split at hw
    · rw [← Option.some.inj hw]
      trivial
    · obtain ⟨x, -, rfl⟩ := Option.map_eq_some_iff.1 hw
      trivial
    · next x _ =>
      rw [← Option.some.inj hw]
      exact x.isBraceless_compact
    · next b _ =>
      rw [← Option.some.inj hw]
      cases b <;> decide
    · rw [← Option.some.inj hw]
      trivial
    · obtain ⟨x, -, rfl⟩ := Option.map_eq_some_iff.1 hw
      trivial
    · cases hw

theorem isBraceless_of_whole? (hw : v.whole? = some w) : w.IsBraceless := by
  cases v with
  | number x =>
    obtain ⟨y, -, rfl⟩ := Option.map_eq_some_iff.1 hw
    trivial
  | text | boolean | point | vector | color => cases hw

end Value

theorem Parameter.isBraceless_of_taken? {p : Parameter} {given v : Value}
    (hg : given.IsBraceless) (h : p.taken? given = some v) : v.IsBraceless := by
  obtain ⟨w, hw, h⟩ := Option.bind_eq_some_iff.1 h
  split at h
  · exact Value.isBraceless_of_whole? h
  · rw [← Option.some.inj h]
    exact hg.coerce? hw

/-! ## Templates -/

/-- A formula gives no text. -/
theorem Formula.isBraceless_of_eval {ps : Assoc Chars Value} {f : Formula} {v : Value}
    (h : f.eval ps = .ok v) : v.IsBraceless := by
  cases v with
  | text t => rcases kind_of_eval h with hk | hk <;> cases hk
  | number | boolean | point | vector | color => trivial

/-- Neither parameters nor derived values bring braces into the fields. -/
theorem BlockTemplate.isBraceless_shown {ps vs : Assoc Chars Value}
    (hps : ∀ q ∈ ps, q.2.IsBraceless) (hvs : ∀ q ∈ vs, q.2.IsBraceless) :
    ∀ q ∈ shown ps vs, q.2.IsBraceless := by
  intro q hq
  obtain ⟨p, hp, rfl⟩ := List.mem_map.1 hq
  have hall : ∀ q ∈ vs.foldl (fun a p => a.put p.1 p.2) ps, q.2.IsBraceless :=
    Assoc.forall_mem_foldl_put hvs hps
  exact (hall p hp).display

namespace Template

variable {views : Assoc Chars View}

/-- A field shows no braces. -/
theorem Field.isBraceless_shown (h : ∀ q ∈ views, q.2.IsBraceless) (f : Field) :
    Chars.IsBraceless (f.shown views) := by
  have hn : Chars.IsBraceless [] := ⟨List.not_mem_nil, List.not_mem_nil⟩
  rw [Field.shown]
  split
  · next v a hv _ =>
    have hv := h _ (Assoc.mem_of_get? hv)
    cases ha : v.parts.get? a with
    | none => exact hn
    | some t => exact hv.parts _ (Assoc.mem_of_get? ha)
  · next v _ hv _ => exact (h _ (Assoc.mem_of_get? hv)).text
  · exact hn

/-- **The braces of a filled template are its own,** which it shows without any values. -/
theorem braces_shown (h : ∀ q ∈ views, q.2.IsBraceless) (pieces : List Piece) :
    Chars.braces (pieces.flatMap (Piece.shown views)) =
      Chars.braces (pieces.flatMap (Piece.shown [])) := by
  induction pieces with
  | nil => rfl
  | cons p pieces ih =>
    rw [List.flatMap_cons, List.flatMap_cons, Chars.braces_append, Chars.braces_append, ih]
    congr 1
    cases p with
    | char c => rfl
    | malformed m => rfl
    | field f => exact (f.isBraceless_shown h).braces_eq

end Template

/-! ## The built-in types -/

namespace Catalogue

/-- Whether an entry brings no braces into a block but in pairs: those of its template are
balanced, and its defaults have none. -/
structure Entry.Nested (e : Entry) : Prop where
  template : Chars.openAfter 0
    ((Template.read e.body).flatMap (Template.Piece.shown [])) = some 0
  defaults : ∀ p ∈ e.parameters, p.default.IsBraceless

instance (e : Entry) : Decidable e.Nested :=
  decidable_of_iff (_ ∧ _) ⟨fun h => ⟨h.1, h.2⟩, fun h => ⟨h.template, h.defaults⟩⟩

/-- **The built-in types are nested.** -/
theorem nested_of_mem : ∀ e ∈ entries, e.Nested := by
  rw [spelled.2]
  decide +kernel

end Catalogue

/-! ## Blocks -/

/-- Whether the type and the texts of a command have no braces. -/
structure Command.IsBraceless (c : Command) : Prop where
  type : Chars.IsBraceless c.type
  values : ∀ q ∈ c.parameters, q.2.IsBraceless

instance (c : Command) : Decidable c.IsBraceless :=
  decidable_of_iff (_ ∧ _) ⟨fun h => ⟨h.1, h.2⟩, fun h => ⟨h.type, h.values⟩⟩

/-- A given value brings no braces into what the parameters resolve to, and no default does. -/
theorem Catalogue.Entry.Nested.isBraceless_values {e : Entry} (he : e.Nested) {c : Command}
    (hc : c.IsBraceless) : ∀ q ∈ Resolution.values e.schema c, q.2.IsBraceless := by
  refine Assoc.forall_mem_foldl_put (fun q hq => ?_) fun q hq => absurd hq List.not_mem_nil
  obtain ⟨p, hp, rfl⟩ := List.mem_map.1 hq
  change (Resolution.value c p).IsBraceless
  rcases Resolution.value_eq_default_or c p with hd | ⟨given, hg, ht⟩
  · rw [hd]
    exact he.defaults p hp
  · exact Parameter.isBraceless_of_taken? (hc.values _ (Assoc.mem_of_get? hg)) ht

namespace Block

variable {c : Command} {margin : Chars}

theorem braces_indent (hm : Chars.IsBraceless margin) (t : Chars) :
    Chars.braces (indent margin t) = Chars.braces t := by
  have hl : ∀ l : Chars, Chars.braces (indentLine margin l) = Chars.braces l := by
    intro l
    rw [indentLine]
    split
    · next h => rw [h]
    · rw [Chars.braces_append, hm.braces_eq, List.nil_append]
  rw [indent_eq, Chars.braces_unlines, List.flatMap_map, ← Chars.flatMap_braces_lines t]
  exact congrArg (fun f => (Chars.lines t).flatMap f) (funext hl)

theorem isBraceless_header (hc : Chars.IsBraceless c.type) : Chars.IsBraceless (header c) := by
  have hn := (isNumeralText_ofInt c.line).isBraceless
  have h₁ : Chars.IsBraceless "// ".toList := by decide
  have h₂ : Chars.IsBraceless " command (line ".toList := by decide
  have h₃ : Chars.IsBraceless ")".toList := by decide
  rw [header_eq]
  exact (((h₁.append hc).append h₂).append hn).append h₃

theorem braces_unknown (hc : Chars.IsBraceless c.type) : Chars.braces (unknown c) = [] := by
  have hm : Chars.IsBraceless "// Unknown command: ".toList := by decide
  rw [unknown, Chars.braces_unlines, List.flatMap_cons, List.flatMap_singleton,
    (isBraceless_header hc).braces_eq, (hm.append hc).braces_eq, List.append_nil]

/-- The braces of a block are those of its body and a pair around them. -/
theorem braces_known (hc : Chars.IsBraceless c.type) (body : Chars) :
    Chars.braces (known c body) = '\x7b' :: (Chars.braces body ++ ['\x7d']) := by
  have hb : Chars.IsBraceless bodyIndent := by decide
  rw [known, Chars.braces_unlines, List.flatMap_cons, List.flatMap_cons, List.flatMap_cons,
    List.flatMap_singleton, (isBraceless_header hc).braces_eq, braces_indent hb]
  rfl

/-- **The braces of a block are balanced,** whatever its command gives. -/
theorem openAfter_builtinText (hw : isWritten c = true) (hc : c.IsBraceless) :
    Chars.openAfter 0 (builtinText c) = some 0 := by
  rw [builtinText, ← Chars.openAfter_braces]
  cases h : Catalogue.registry.get? c.type with
  | none =>
    rw [builtinBody?_eq_none h]
    dsimp only
    rw [braces_unknown hc.type, Chars.openAfter_nil]
  | some s =>
    obtain ⟨e, he, rfl⟩ := Catalogue.exists_entry_of_get? h
    have hs := Catalogue.nested_of_mem e he
    rw [isWritten, h] at hw
    obtain ⟨vs, body, hd, hb, -, hf, -⟩ := (Catalogue.sound_of_mem e he).render hw true
    have hviews := BlockTemplate.isBraceless_shown (hs.isBraceless_values hc)
      (Formula.forall_of_derived (fun _ _ => Formula.isBraceless_of_eval) hd)
    have hbody := hs.template
    rw [← Chars.openAfter_braces, ← Template.braces_shown hviews, ← hb] at hbody
    rw [builtinBody?, h, Option.bind_some, hf]
    dsimp only [Except.toOption]
    rw [braces_known hc.type, Chars.openAfter_opening, Chars.openAfter_append,
      Chars.openAfter_add hbody 1, Option.bind_some, Chars.openAfter_closing_succ,
      Chars.openAfter_nil]

/-- Blocks one after the other are balanced. -/
theorem openAfter_blocks {cs : List Command} (hw : ∀ c ∈ cs, isWritten c = true)
    (hcs : ∀ c ∈ cs, c.IsBraceless) (hm : Chars.IsBraceless margin) :
    Chars.openAfter 0 (cs.flatMap fun c => indent margin (builtinText c) ++ "\n\n".toList) =
      some 0 := by
  induction cs with
  | nil => exact Chars.openAfter_nil 0
  | cons c cs ih =>
    rw [List.forall_mem_cons] at hw hcs
    have hb : Chars.openAfter 0 (indent margin (builtinText c) ++ "\n\n".toList) = some 0 := by
      rw [← Chars.openAfter_braces, Chars.braces_append, braces_indent hm,
        show Chars.braces "\n\n".toList = [] by decide, List.append_nil, Chars.openAfter_braces,
        openAfter_builtinText hw.1 hcs.1]
    rw [List.flatMap_cons, Chars.openAfter_append, hb, Option.bind_some, ih hw.2 hcs.2]

end Block

/-! ## Documents -/

/-- Whether a datum is described without braces, if there is room for its levels. -/
def Datum.IsBraceless (room : ℕ) (d : Datum) : Prop :=
  ∀ t, d.describe? room = .ok t → Chars.IsBraceless t

namespace Document

/-- The default header leaves four braces open. -/
theorem openAfter_defaultHeader {a b m : Chars} (ha : Chars.IsBraceless a)
    (hb : Chars.IsBraceless b) (hm : Chars.IsBraceless m) :
    Chars.openAfter 0 (defaultHeader a b m) = some 4 := by
  have hbraces : Chars.braces (defaultHeader a b m) = List.replicate 4 '\x7b' := by
    simp only [defaultHeader, Chars.braces_unlines, List.flatMap_cons, List.flatMap_nil,
      Chars.braces_append, ha.braces_eq, hb.braces_eq, hm.braces_eq, Chars.toList_literal]
    decide +kernel
  rw [← Chars.openAfter_braces, hbraces]
  decide

/-- The default footer closes them. -/
theorem openAfter_defaultFooter : Chars.openAfter 4 defaultFooter = some 0 := by
  have hbraces : Chars.braces defaultFooter = List.replicate 4 '\x7d' := by
    simp only [defaultFooter, Chars.braces_unlines, List.flatMap_cons, List.flatMap_nil,
      Chars.toList_literal]
    decide +kernel
  rw [← Chars.openAfter_braces, hbraces]
  decide

section Default

variable {room : ℕ} {s : Settings}

theorem name_eq_ok_iff {d : Datum} {t : Chars} :
    name room d = .ok t ↔ d.describe? room = .ok t := by
  rw [name]
  cases d.describe? room <;> simp [Except.mapError]

/-- The default header is that of three names, which are described. -/
theorem header_eq_ok_iff (hh : s.header.isNull = true) {d : Datum} :
    header room s = .ok d ↔ ∃ a b m, s.namespaceName.describe? room = .ok a ∧
      s.className.describe? room = .ok b ∧ s.commandMethod.describe? room = .ok m ∧
      d = .text (defaultHeader a b m) := by
  rw [header, if_pos hh]
  constructor
  · intro h
    obtain ⟨a, ha, h⟩ := exists_of_bind_eq_ok h
    obtain ⟨b, hb, h⟩ := exists_of_bind_eq_ok h
    obtain ⟨m, hm, h⟩ := exists_of_bind_eq_ok h
    exact ⟨a, b, m, name_eq_ok_iff.1 ha, name_eq_ok_iff.1 hb, name_eq_ok_iff.1 hm,
      (Except.ok.inj h).symm⟩
  · rintro ⟨a, b, m, ha, hb, hm, rfl⟩
    rw [name_eq_ok_iff.2 ha, name_eq_ok_iff.2 hb, name_eq_ok_iff.2 hm]
    rfl

/-- A document with the default header and footer is these and the blocks between them. -/
theorem render_eq_ok_iff (hh : s.header.isNull = true) (hf : s.footer.isNull = true)
    {cs : List Command} {t : Chars} :
    (render room s Catalogue.registry cs).result = .ok t ↔
      (∀ c ∈ cs, Block.isWritten c = true) ∧ ∃ a b m, s.namespaceName.describe? room = .ok a ∧
        s.className.describe? room = .ok b ∧ s.commandMethod.describe? room = .ok m ∧
        t = defaultHeader a b m ++ (cs.flatMap fun c =>
          Block.indent s.indent (Block.builtinText c) ++ "\n\n".toList) ++ defaultFooter := by
  have hfooter : footer s = .text defaultFooter := if_pos hf
  rw [render, Report.result_bind, Block.result_renderAll, hfooter]
  constructor
  · intro h
    obtain ⟨body, hbody, h⟩ := exists_of_bind_eq_ok h
    split at hbody
    · next hw =>
      obtain rfl := Except.ok.inj hbody
      obtain ⟨d, hd, h⟩ := exists_of_bind_eq_ok h
      obtain ⟨a, b, m, ha, hb, hm, rfl⟩ := (header_eq_ok_iff hh).1 hd
      exact ⟨hw, a, b, m, ha, hb, hm, (Except.ok.inj h).symm⟩
    · cases hbody
  · rintro ⟨hw, a, b, m, ha, hb, hm, rfl⟩
    rw [if_pos hw, (header_eq_ok_iff hh).2 ⟨a, b, m, ha, hb, hm, rfl⟩]
    rfl

/-- **A document with the default header and footer has balanced braces,** if the names and
the indent in the settings and the types and texts of the commands have none.  No number,
boolean, point, vector or color brings any in, nor a type that is not registered or a default.
There is a document if the commands can be written and the names described. -/
theorem balanced_render {cs : List Command} (hh : s.header.isNull = true)
    (hf : s.footer.isNull = true) (hn : s.namespaceName.IsBraceless room)
    (hk : s.className.IsBraceless room) (hm : s.commandMethod.IsBraceless room)
    (hi : Chars.IsBraceless s.indent) (hcs : ∀ c ∈ cs, c.IsBraceless) :
    (∀ t, (render room s Catalogue.registry cs).result = .ok t → Chars.Balanced t) ∧
      ((∀ c ∈ cs, c.IsWritable) →
        (∀ d ∈ [s.namespaceName, s.className, s.commandMethod], ∃ t, d.describe? room = .ok t) →
        ∃ t, (render room s Catalogue.registry cs).result = .ok t) := by
  constructor
  · intro t ht
    obtain ⟨hw, a, b, m, hda, hdb, hdm, rfl⟩ := (render_eq_ok_iff hh hf).1 ht
    have hblocks := Chars.openAfter_add (Block.openAfter_blocks hw hcs hi) 4
    rw [Chars.balanced_iff, Chars.openAfter_append, Chars.openAfter_append,
      openAfter_defaultHeader (hn a hda) (hk b hdb) (hm m hdm), Option.bind_some, hblocks,
      Option.bind_some, openAfter_defaultFooter]
  · intro hw hd
    simp only [List.forall_mem_cons] at hd
    obtain ⟨⟨a, ha⟩, ⟨b, hb⟩, ⟨m, hm⟩, -⟩ := hd
    exact ⟨_, (render_eq_ok_iff hh hf).2
      ⟨fun c hc => Block.isWritten_of_isWritable (hw c hc), a, b, m, ha, hb, hm, rfl⟩⟩

/-- A layer with a text for a color, whose template has braces of its own, and a type that is
not registered. -/
theorem balanced_render_layer :
    let s : Settings := { className := .text "Plan".toList }
    let cs : List Command := [⟨"LAYER", [("name", .text "walls"), ("color", .text "red")], 1⟩,
      ⟨"CUBE", [("side", .number .nan)], 2⟩]
    s.header.isNull = true ∧ s.footer.isNull = true ∧ s.namespaceName.IsBraceless 1 ∧
      s.className.IsBraceless 1 ∧ s.commandMethod.IsBraceless 1 ∧ Chars.IsBraceless s.indent ∧
      (∀ c ∈ cs, c.IsBraceless) ∧
      ∃ t, (render 1 s Catalogue.registry cs).result = .ok t ∧ Chars.Balanced t := by
  intro s cs
  have hname {d : Datum} {a : Chars} (ha : d.describe? 1 = .ok a) (hb : Chars.IsBraceless a) :
      d.IsBraceless 1 := fun t ht => by rwa [← Except.ok.inj (ha.symm.trans ht)]
  have hn : s.namespaceName.describe? 1 = .ok "GeneratedCAD".toList := rfl
  have hk : s.className.describe? 1 = .ok "Plan".toList := rfl
  have hm : s.commandMethod.describe? 1 = .ok "RUNGENERATED".toList := rfl
  have hnb := hname hn (by decide)
  have hkb := hname hk (by decide)
  have hmb := hname hm (by decide)
  have hi : Chars.IsBraceless s.indent := by decide
  have hcs : ∀ c ∈ cs, c.IsBraceless := by decide +kernel
  have hw : ∀ c ∈ cs, c.IsWritable := by decide +kernel
  obtain ⟨hb, ht⟩ := balanced_render (s := s) rfl rfl hnb hkb hmb hi hcs
  obtain ⟨t, ht⟩ := ht hw (by
    simp only [List.forall_mem_cons]
    exact ⟨⟨_, hn⟩, ⟨_, hk⟩, ⟨_, hm⟩, fun d hd => absurd hd List.not_mem_nil⟩)
  exact ⟨rfl, rfl, hnb, hkb, hmb, hi, hcs, t, ht, hb t ht⟩

end Default

end Document
end DraftScript
