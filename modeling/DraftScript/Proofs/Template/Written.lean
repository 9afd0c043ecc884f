/-
# Templates written in parts

A template is written in parts: texts, in which every brace is doubled, and places, which name
a value or a part of it.

    text "{"   place at.x   text "}"   place name          {{{at.x}}}{name}

It is read as it was written (`read_source`), wherever braces meet, and filled part by part
(`fill_source`): a text stands for itself, and a place for the text of its value, in which
braces and dollars mean nothing.  The value of a place is the derived one of its name, if there is
one, and else the parameter; it is derived from the parameters, whatever the function.

| value | text | of its parts |
| --- | --- | --- |
| number | compact | |
| text | itself | |
| boolean | `true`, `false` | |
| point, vector | `x, y, z` | compact |
| color | `r, g, b` | decimal |

Two things keep a template from being filled so (`fill_unwritten`).  A parameter or derived value
with a channel of too many digits is a fault even where it has no place.  And a name of digits
is the number of a position, of which there are none.
-/

import DraftScript.Proofs.Template.Kinds
import DraftScript.Proofs.Template.Reading
import Mathlib.Data.List.TakeWhile

namespace DraftScript

open Value (AllWritable)

/-- Whether a text is shown for a value, or for a part of it. -/
inductive Value.Shows : Value → Option Char → Chars → Prop
  | number (x : Binary64) : Shows (.number x) none x.compact
  | text (t : Chars) : Shows (.text t) none t
  | boolean (b : Bool) : Shows (.boolean b) none (truthText b)
  | point (x y z : Binary64) : Shows (.point x y z) none (triple x.compact y.compact z.compact)
  | vector (x y z : Binary64) : Shows (.vector x y z) none (triple x.compact y.compact z.compact)
  | color (r g b : ℤ) :
    Shows (.color r g b) none (triple (Chars.ofInt r) (Chars.ofInt g) (Chars.ofInt b))
  | ofPoint {x y z u : Binary64} {c : Char} (h : (c, u) ∈ [('x', x), ('y', y), ('z', z)]) :
    Shows (.point x y z) (some c) u.compact
  | ofVector {x y z u : Binary64} {c : Char} (h : (c, u) ∈ [('x', x), ('y', y), ('z', z)]) :
    Shows (.vector x y z) (some c) u.compact
  | ofColor {r g b n : ℤ} {c : Char} (h : (c, n) ∈ [('r', r), ('g', g), ('b', b)]) :
    Shows (.color r g b) (some c) (Chars.ofInt n)

namespace Template

/-! ## Writing -/

/-- A part of a template: a text, or the place of a value or of a part of it. -/
inductive Part where
  | text (t : Chars)
  | place (name : Chars) (component : Option Char)
deriving DecidableEq, Repr

/-- A text with every brace doubled. -/
def doubled (t : Chars) : Chars :=
  t.flatMap fun c => if c = '\x7b' ∨ c = '\x7d' then [c, c] else [c]

/-- The path of a place. -/
def placePath (name : Chars) : Option Char → Chars
  | none => name
  | some c => name ++ ['.', c]

namespace Part

/-- A part as it is written. -/
def source : Part → Chars
  | text t => doubled t
  | place n c => '\x7b' :: (placePath n c ++ ['\x7d'])

/-- The pieces as which a part is read. -/
def pieces : Part → List Piece
  | text t => t.map .char
  | place n c => [.field ⟨placePath n c, none, []⟩]

end Part

/-- A template as it is written. -/
def source (parts : List Part) : Chars := parts.flatMap Part.source

/-- Whether a character can stand in a name: it neither ends the path nor goes on to a part. -/
def IsPlain (c : Char) : Prop := c ∉ ['\x7b', '\x7d', '[', ':', '!', '.']

instance (c : Char) : Decidable (IsPlain c) := inferInstanceAs (Decidable (c ∉ _))

/-- Whether a name can stand in a place; a number would count places. -/
structure IsPlaceName (n : Chars) : Prop where
  ne_nil : n ≠ []
  plain : ∀ c ∈ n, IsPlain c
  not_index : index? n = .ok none

-- Only the characters of the name are gone through, and not all that there are.
instance (n : Chars) : Decidable (IsPlaceName n) :=
  have : Decidable (∀ c ∈ n, IsPlain c) := n.decidableBAll IsPlain
  decidable_of_iff (n ≠ [] ∧ (∀ c ∈ n, IsPlain c) ∧ index? n = .ok none)
    ⟨fun h => ⟨h.1, h.2.1, h.2.2⟩, fun h => ⟨h.ne_nil, h.plain, h.not_index⟩⟩

/-! ## Reading what was written -/

variable {n : Chars} {c : Char} {component : Option Char}

/-- **Doubled braces are read as single ones.** -/
theorem read_doubled_append (t rest : Chars) :
    read (doubled t ++ rest) = t.map .char ++ read rest := by
  induction t with
  | nil => rfl
  | cons c t ih =>
    rw [doubled, List.flatMap_cons, ← doubled, List.append_assoc, List.map_cons, List.cons_append,
      ← ih]
    split
    · next hc => exact read_doubled hc _
    · next hc =>
      rw [not_or] at hc
      exact read_cons_of_ne hc.1 hc.2 _

/-- **A place is read as the field that it is.** -/
theorem read_place_append (hn : IsPlaceName n) (hc : ∀ c ∈ component, IsPlain c)
    (rest : Chars) : read ((Part.place n component).source ++ rest) =
      .field ⟨placePath n component, none, []⟩ :: read rest := by
  have hplain {d : Char} (h : IsPlain d) : d ∉ ['\x7b', '\x7d', '[', ':', '!'] :=
    mt (List.mem_append_left ['.']) h
  have hpath : ∀ d ∈ placePath n component, d ∉ ['\x7b', '\x7d', '[', ':', '!'] := by
    cases component with
    | none => exact fun d hd => hplain (hn.plain d hd)
    | some c =>
      refine List.forall_mem_append.2 ⟨fun d hd => hplain (hn.plain d hd), ?_⟩
      exact List.forall_mem_cons.2 ⟨by decide, List.forall_mem_singleton.2 (hplain (hc c rfl))⟩
  rw [← read_field (readField_append hpath rest), Part.source]
  simp

/-- A plain character goes on with a name. -/
theorem IsPlain.goes_on (h : IsPlain c) : (c != '.' && c != '[') = true := by
  simp only [IsPlain, List.mem_cons, List.not_mem_nil, or_false, not_or] at h
  simp [h]

theorem pathName_placePath (hn : IsPlaceName n) : pathName (placePath n component) = n := by
  have hp : ∀ c ∈ n, (c != '.' && c != '[') = true := fun c hc => (hn.plain c hc).goes_on
  cases component with
  | none => exact List.takeWhile_eq_self_iff.2 hp
  | some c =>
    rw [pathName, placePath, List.takeWhile_append_of_pos hp]
    simp

theorem pathSteps_placePath (hn : IsPlaceName n) (hc : ∀ c ∈ component, IsPlain c) :
    pathSteps (placePath n component) = component.toList.map fun c => .attribute ([c]) := by
  rw [pathSteps, pathName_placePath hn]
  cases component with
  | none =>
    rw [placePath, List.drop_length]
    cases n with
    | nil => rfl
    | cons c n => rfl
  | some c =>
    have h : List.takeWhile (fun c => c != '.' && c != '[') [c] = [c] := by
      simp [(hc c rfl).goes_on]
    rw [placePath, List.drop_left, List.length_append]
    simp only [List.length_cons, List.length_nil, readSteps, h]
    simp [readSteps]

/-- Whether a part can be read as it was written. -/
def Part.IsReadable : Part → Prop
  | .text _ => True
  | .place n component => IsPlaceName n ∧ ∀ c ∈ component, IsPlain c

theorem read_source_append {p : Part} (h : p.IsReadable) (rest : Chars) :
    read (p.source ++ rest) = p.pieces ++ read rest := by
  cases p with
  | text t => exact read_doubled_append t rest
  | place n component => exact read_place_append h.1 h.2 rest

/-- **A template is read as it was written.** -/
theorem read_source {parts : List Part} (h : ∀ p ∈ parts, p.IsReadable) :
    read (source parts) = parts.flatMap Part.pieces := by
  induction parts with
  | nil => rfl
  | cons p parts ih =>
    rw [List.forall_mem_cons] at h
    rw [source, List.flatMap_cons, ← source, read_source_append h.1, ih h.2, List.flatMap_cons]

end Template

/-! ## Filling what was written -/

namespace Value.Shows

variable {v : Value} {c : Char} {t : Chars}

/-- The text of a value is that of its view. -/
theorem text_display (h : v.Shows none t) : v.display.text = t := by
  cases h <;> rfl

/-- The text of a part of a value is that of the part of its view. -/
theorem get?_parts_display (h : v.Shows (some c) t) : v.display.parts.get? [c] = some t := by
  cases h with
  | ofPoint h | ofVector h | ofColor h =>
    simp only [List.mem_cons, Prod.mk.injEq, List.not_mem_nil, or_false] at h
    rcases h with ⟨rfl, rfl⟩ | ⟨rfl, rfl⟩ | ⟨rfl, rfl⟩ <;> rfl

theorem mem_parts (h : v.Shows (some c) t) : [c] ∈ v.kind.parts := by
  rw [← v.keys_parts_display]
  exact Assoc.has_iff_mem_keys.1 (Option.isSome_iff_exists.2 ⟨t, h.get?_parts_display⟩)

theorem isPlain (h : v.Shows (some c) t) : Template.IsPlain c := by
  have hp := h.mem_parts
  revert hp
  cases v.kind <;> simp [Kind.parts, Template.IsPlain] <;> grind

end Value.Shows

namespace Template

variable {ps qs : Assoc Chars Value} {vs : Assoc Chars Value} {n t : Chars} {v : Value}
  {component : Option Char}

/-- Whether a part shows a text: a text itself, and a place that of the value of its name, which
is the derived one, if there is one, and else the parameter. -/
inductive Part.Shows (ps vs : Assoc Chars Value) : Part → Chars → Prop
  | text (t : Chars) : Shows ps vs (.text t) t
  | derived {n : Chars} {component : Option Char} {v : Value} {t : Chars} (hn : IsPlaceName n)
      (hv : vs.get? n = some v) (ht : v.Shows component t) : Shows ps vs (.place n component) t
  | parameter {n : Chars} {component : Option Char} {v : Value} {t : Chars} (hn : IsPlaceName n)
      (hd : n ∉ vs.keys) (hv : ps.get? n = some v) (ht : v.Shows component t) :
      Shows ps vs (.place n component) t

/-- **A place shows the text of the value of its name.** -/
theorem field_of_shows (hn : IsPlaceName n) (hv : qs.get? n = some v) (ht : v.Shows component t) :
    Field.fits (.of qs) ⟨placePath n component, none, []⟩ = true ∧
      Field.shown (viewsOf qs) ⟨placePath n component, none, []⟩ = t := by
  have hk : (Kinds.of qs).get? n = some v.kind := by rw [Kinds.of, Assoc.get?_mapValues, hv]; rfl
  have hview : (viewsOf qs).get? n = some v.display := by rw [Assoc.get?_mapValues, hv]; rfl
  have hc : ∀ c ∈ component, IsPlain c := by
    rintro c rfl
    exact ht.isPlain
  unfold Field.fits Field.shown
  rw [pathName_placePath hn, pathSteps_placePath hn hc, hk, hview, hn.not_index]
  cases component with
  | none => exact ⟨by simp [hn.ne_nil], ht.text_display⟩
  | some c => exact ⟨by simp [hn.ne_nil, ht.mem_parts], by simp [ht.get?_parts_display]⟩

/-- A part that shows a text is read as it was written, and its pieces make up the text. -/
theorem Part.Shows.of_put {p : Part} (hk : vs.keys.Nodup) (h : Part.Shows ps vs p t) :
    let qs := vs.foldl (fun a p => a.put p.1 p.2) ps
    p.IsReadable ∧ p.pieces.all (Piece.fits (.of qs)) = true ∧
      p.pieces.flatMap (Piece.shown (viewsOf qs)) = t := by
  intro qs
  have hplace {n : Chars} {component : Option Char} {v : Value} (hn : IsPlaceName n)
      (hv : qs.get? n = some v) (ht : v.Shows component t) :
      (Part.place n component).IsReadable ∧
        (Part.place n component).pieces.all (Piece.fits (.of qs)) = true ∧
        (Part.place n component).pieces.flatMap (Piece.shown (viewsOf qs)) = t := by
    obtain ⟨hfits, hshown⟩ := field_of_shows hn hv ht
    refine ⟨⟨hn, ?_⟩, by simpa [Part.pieces, Piece.fits] using hfits, ?_⟩
    · rintro c rfl
      exact ht.isPlain
    · simpa [Part.pieces, Piece.shown] using hshown
  cases h with
  | text t =>
    refine ⟨trivial, by simp [Part.pieces, Piece.fits], ?_⟩
    rw [Part.pieces, List.flatMap_map]
    exact List.flatMap_singleton' t
  | derived hn hv ht =>
    exact hplace hn (by rw [Assoc.get?_foldl_put hk, hv]; rfl) ht
  | parameter hn hd hv ht =>
    exact hplace hn (by rw [Assoc.get?_foldl_put_of_not_mem hd, hv]) ht

/-- **A template shows what its parts show, one after the other.** -/
theorem fill_source {parts : List Part} {texts : List Chars} (hk : vs.keys.Nodup)
    (h : List.Forall₂ (Part.Shows ps vs) parts texts) (address : Chars → ℕ) :
    fill address (BlockTemplate.shown ps vs) (source parts) = .ok texts.flatten := by
  let qs := vs.foldl (fun a p => a.put p.1 p.2) ps
  have hparts : (∀ p ∈ parts, p.IsReadable) ∧
      (parts.flatMap Part.pieces).all (Piece.fits (.of qs)) = true ∧
      (parts.flatMap Part.pieces).flatMap (Piece.shown (viewsOf qs)) = texts.flatten := by
    induction h with
    | nil => exact ⟨by simp, rfl, rfl⟩
    | cons hp _ ih =>
      obtain ⟨hr, hf, hs⟩ := hp.of_put hk
      refine ⟨List.forall_mem_cons.2 ⟨hr, ih.1⟩, ?_, ?_⟩
      · rw [List.flatMap_cons, List.all_append, hf, ih.2.1]
        rfl
      · rw [List.flatMap_cons, List.flatMap_append, hs, ih.2.2, List.flatten_cons]
  obtain ⟨hr, hf, hs⟩ := hparts
  rw [fill, showTo, read_source hr, ← hs]
  exact showAll_of_fits address hf _

end Template

namespace BlockTemplate

variable {t : BlockTemplate} {ps vs : Assoc Chars Value}

/-- **A template that is written in parts shows the texts of the parts,** if the parameters and
the derived values can be written.  Whatever functions of the parameters give the derived values,
a text shows itself with its single braces, and a place the text of the derived value of its name
or else of the parameter, in which nothing is read as a template again.  A value that cannot be
written is a fault, whether or not it has a place. -/
theorem fill_written {parts : List Template.Part} {texts : List Chars}
    (hb : t.body = Template.source parts) (hk : t.derived.keys.Nodup) (hd : Derived ps t.derived vs)
    (h : List.Forall₂ (Template.Part.Shows ps vs) parts texts) :
    t.fill ps =
      if AllWritable ps ∧ AllWritable vs then .ok texts.flatten else .error .unwritable := by
  rw [hd.keys_eq] at hk
  rw [fill_of_derived hd, hb, Template.fill_source hk h]

/-- A text that looks like a template, beside doubled braces, and two derived fields of the same
points, of which one has the name of a point. -/
theorem fill_written_shadowed :
    let ps : Assoc Chars Value := [("note", .text "\x7bat\x7d $r \x7b\x7b"),
      ("at", .point (.ofInt 1) (.ofInt 2) (.ofInt 3)),
      ("to", .point (.ofInt 4) (.ofInt 4) (.ofInt 4))]
    let d : Value := .vector (.ofInt 3) (.ofInt 2) (.ofInt 1)
    let f : Formula := .displacement "at" "to"
    let t : BlockTemplate :=
      { body := "\x7b\x7b\x7bnote\x7d\x7d\x7d\x7b\x7b\x7bd.z\x7d$\x7d\x7d\x7bat\x7d"
        derived := [("at", f.derivation), ("d", f.derivation)] }
    let parts : List Template.Part := [.text "\x7b", .place "note" none, .text "\x7d\x7b",
      .place "d" (some 'z'), .text "$\x7d", .place "at" none]
    let texts : List Chars :=
      ["\x7b", "\x7bat\x7d $r \x7b\x7b", "\x7d\x7b", "1", "$\x7d", "3, 2, 1"]
    t.body = Template.source parts ∧ t.derived.keys.Nodup ∧
      Derived ps t.derived [("at", d), ("d", d)] ∧
      List.Forall₂ (Template.Part.Shows ps [("at", d), ("d", d)]) parts texts ∧
      t.fill ps = .ok "\x7b\x7bat\x7d $r \x7b\x7b\x7d\x7b1$\x7d3, 2, 1" := by
  intro ps d f t parts texts
  have hb : t.body = Template.source parts := by decide
  have hk : t.derived.keys.Nodup := by decide
  have hd : Derived ps t.derived [("at", d), ("d", d)] := by
    have hf : f.eval ps = .ok d := by decide +kernel
    exact .cons ⟨rfl, hf⟩ (.cons ⟨rfl, hf⟩ .nil)
  have hs : List.Forall₂ (Template.Part.Shows ps [("at", d), ("d", d)]) parts texts := by
    have hz : d.Shows (some 'z') "1" := by
      have h : (Binary64.ofInt 1).compact = "1" := by decide +kernel
      exact h ▸ .ofVector (by simp)
    have hd : d.Shows none "3, 2, 1" := by
      have h : Value.triple (Binary64.ofInt 3).compact (Binary64.ofInt 2).compact
          (Binary64.ofInt 1).compact = "3, 2, 1" := by decide +kernel
      exact h ▸ .vector _ _ _
    refine .cons (.text _) (.cons ?_ (.cons (.text _) (.cons ?_ (.cons (.text _) (.cons ?_ .nil)))))
    · exact .parameter (by decide +kernel) (by decide) rfl (.text _)
    · exact .derived (by decide +kernel) rfl hz
    · exact .derived (by decide +kernel) rfl hd
  exact ⟨hb, hk, hd, hs, fill_written hb hk hd hs⟩

/-- A color that is too long, which the template does not show, and a parameter whose name is a
number. -/
theorem fill_unwritten :
    (BlockTemplate.fill { body := Template.source [.text "on"] } [("tint", .overlong)] =
        .error .unwritable) ∧
      Value.Shows (.text "a") none "a" ∧
      BlockTemplate.fill { body := Template.source [.place "0" none] } [("0", .text "a")] =
        .error (.position 0) := by
  refine ⟨fill_of_not_allWritable _ fun h => ?_, .text _, by decide +kernel⟩
  have ht := h ("tint", .overlong) List.mem_cons_self
  exact Bool.false_ne_true (Value.isWritable_overlong.symm.trans ht)

end BlockTemplate
end DraftScript
