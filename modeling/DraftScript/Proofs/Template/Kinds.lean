/-
# Templates that fit their parameters

Whether a template whose derived fields are formulas can be filled is settled by the kinds of its
parameters.  It fits them when each formula takes parameters that have what it asks for, when
nothing in its text is malformed, and when each field of it is

| field | of |
| --- | --- |
| `{name}` | a parameter or derived field |
| `{name.part}` | one whose kind has the part |

without a conversion or a width rule (`Template.fits`).  Such a template is filled whatever the
values are, if they can be written (`BlockTemplate.fill_of_fits`): it shows its own characters, and
in place of the fields the texts of the values and of their parts (`Piece.shown`).
-/

import DraftScript.Proofs.Template.Fields

namespace DraftScript

open Value (AllWritable)

/-! ## Kinds -/

/-- The kinds of named values. -/
abbrev Kinds := Assoc Chars Kind

/-- The kinds of values, by name. -/
def Kinds.of (ps : Assoc Chars Value) : Kinds := ps.mapValues Value.kind

/-- The parts that a kind of values has. -/
def Kind.parts : Kind → List Chars
  | point | vector => [['x'], ['y'], ['z']]
  | color => [['r'], ['g'], ['b']]
  | number | text | boolean => []

/-- Whether values of a kind have coordinates. -/
def Kind.isSpatial : Kind → Bool
  | point | vector => true
  | number | text | boolean | color => false

/-- A value has the parts of its kind. -/
theorem Value.keys_parts_display (v : Value) : v.display.parts.keys = v.kind.parts := by
  cases v <;> rfl

/-! ## Pieces of a template -/

namespace Template

variable {ps : Assoc Chars Value}

/-- Whether a field shows a value of one of the kinds, or a part of one. -/
def Field.fits (ks : Kinds) (f : Field) : Bool :=
  match f.conversion, f.rule, ks.get? (pathName f.path), index? (pathName f.path) with
  | none, [], some k, .ok none =>
    pathName f.path != [] && match pathSteps f.path with
      | [] => true
      | [.attribute a] => k.parts.contains a
      | _ => false
  | _, _, _, _ => false

/-- Whether a piece is a character, or a field that shows a value of one of the kinds. -/
def Piece.fits (ks : Kinds) : Piece → Bool
  | .char _ => true
  | .field f => f.fits ks
  | .malformed _ => false

/-- The text of a field that fits: that of the value, or of the part of it. -/
def Field.shown (views : Assoc Chars View) (f : Field) : Chars :=
  match views.get? (pathName f.path), pathSteps f.path with
  | some v, [.attribute a] => (v.parts.get? a).getD []
  | some v, _ => v.text
  | none, _ => []

/-- The text of a piece that fits: its character, or that of its field. -/
def Piece.shown (views : Assoc Chars View) : Piece → Chars
  | .char c => [c]
  | .field f => f.shown views
  | .malformed _ => []

/-- No part of a value has the name of another attribute. -/
theorem attribute?_of_mem_parts (address : ℕ) (v : Value) {a : Chars} (h : a ∈ v.kind.parts) :
    (Shown.view address v.display).attribute? a = (v.display.parts.get? a).map .text := by
  have hne : ∀ k : Kind, ∀ a ∈ k.parts, a ∉ ["__class__".toList, "__doc__".toList,
      "__dict__".toList, "__weakref__".toList, "__module__".toList, "text".toList] := by
    intro k
    cases k <;> decide
  have ha := hne _ a h
  simp only [List.mem_cons, List.not_mem_nil, or_false, not_or] at ha
  obtain ⟨h₁, h₂, h₃, h₄, h₅, h₆⟩ := ha
  simp only [Shown.attribute?, Shown.ownAttribute?, View.entries, Assoc.get?, if_neg h₁, if_neg h₂,
    if_neg h₃, if_neg h₄, if_neg h₅, if_neg (Ne.symm h₆)]

section Showing

variable (address : Chars → ℕ)

theorem follow_of_fits {f : Field} (h : f.fits (.of ps) = true) :
    f.conversion = none ∧ f.rule = [] ∧ ∃ s, follow address (viewsOf ps) f.path = .ok s ∧
      s.formatted [] = .ok (f.shown (viewsOf ps)) := by
  unfold Field.fits at h
  split at h
  · next k hc hr hk hi =>
    rw [Kinds.of, Assoc.get?_mapValues] at hk
    obtain ⟨v, hv, rfl⟩ := Option.map_eq_some_iff.1 hk
    have hview : (viewsOf ps).get? (pathName f.path) = some v.display := by
      rw [Assoc.get?_mapValues, hv]
      rfl
    rw [Bool.and_eq_true, bne_iff_ne] at h
    have hf : find (viewsOf ps) (pathName f.path) = .ok v.display := by
      rw [find, if_neg h.1, hi]
      dsimp only
      rw [hview]
    refine ⟨hc, hr, ?_⟩
    rw [follow, hf, Field.shown, hview]
    replace h := h.2
    split at h
    · next hs =>
      rw [hs]
      exact ⟨.view (address (pathName f.path)) v.display, rfl, rfl⟩
    · next a hs =>
      rw [List.contains_iff_mem] at h
      obtain ⟨t, ht⟩ : ∃ t, v.display.parts.get? a = some t := by
        rw [← Value.keys_parts_display] at h
        exact Option.isSome_iff_exists.1 (Assoc.has_iff_mem_keys.2 h)
      refine ⟨.text t, ?_, ?_⟩
      · rw [hs]
        simp [bind, Except.bind, Shown.step, attribute?_of_mem_parts _ v h, ht, pure, Except.pure]
      · rw [hs]
        dsimp only
        rw [ht]
        rfl
    · cases h
  · cases h

/-- **A piece that fits the kinds of values is shown.** -/
theorem Piece.text_of_fits {p : Piece} (h : p.fits (.of ps) = true)
    (inner : Chars → Except RenderFault Chars) :
    p.text address (viewsOf ps) inner = .ok (p.shown (viewsOf ps)) := by
  cases p with
  | char c => rfl
  | malformed m => cases h
  | field f =>
    obtain ⟨hc, hr, s, hs, ht⟩ := follow_of_fits address h
    rw [text, hs, hc, hr]
    exact ht

theorem showAll_of_fits {pieces : List Piece} (h : pieces.all (Piece.fits (.of ps)) = true)
    (inner : Chars → Except RenderFault Chars) :
    showAll address (viewsOf ps) inner pieces =
      .ok (pieces.flatMap (Piece.shown (viewsOf ps))) := by
  induction pieces with
  | nil => rfl
  | cons p pieces ih =>
    rw [List.all_cons, Bool.and_eq_true] at h
    rw [showAll, Piece.text_of_fits address h.1, ih h.2]
    rfl

end Showing

end Template

/-! ## Formulas -/

namespace Formula

variable {ps : Assoc Chars Value} {f : Formula} {v : Value}

/-- Formulas as derivations. -/
def derivations (fs : Assoc Chars Formula) : Assoc Chars Derivation := fs.mapValues derivation

/-- The kind of what a formula gives, if the parameters that it takes have what it asks for. -/
def kind? (ks : Kinds) : Formula → Option Kind
  | radians n => if ks.get? n = some .number then some .number else none
  | displacement start stop =>
    match ks.get? start, ks.get? stop with
    | some a, some b =>
      if a.isSpatial = true ∧ b.isSpatial = true then some .vector else none
    | _, _ => none

/-- A formula gives a number or a vector. -/
theorem kind_of_eval (h : f.eval ps = .ok v) : v.kind = .number ∨ v.kind = .vector := by
  cases f with
  | radians n =>
    obtain ⟨a, -, h⟩ := exists_of_bind_eq_ok h
    obtain ⟨x, -, h⟩ := exists_of_bind_eq_ok h
    rw [← Except.ok.inj h]
    exact .inl rfl
  | displacement start stop =>
    obtain ⟨a, -, h⟩ := exists_of_bind_eq_ok h
    obtain ⟨b, -, h⟩ := exists_of_bind_eq_ok h
    obtain ⟨p, -, h⟩ := exists_of_bind_eq_ok h
    obtain ⟨q, -, h⟩ := exists_of_bind_eq_ok h
    rw [← Except.ok.inj h]
    exact .inr rfl

theorem isWritable_of_eval (h : f.eval ps = .ok v) : v.isWritable = true := by
  refine Value.isWritable_of_kind_ne ?_
  rcases kind_of_eval h with hk | hk <;> simp [hk]

theorem parameter_of_get? {n : Chars} {k : Kind} (h : (Kinds.of ps).get? n = some k) :
    ∃ v, parameter ps n = .ok v ∧ v.kind = k := by
  rw [Kinds.of, Assoc.get?_mapValues] at h
  obtain ⟨v, hv, hk⟩ := Option.map_eq_some_iff.1 h
  exact ⟨v, by rw [parameter, hv], hk⟩

theorem coordinates_of_isSpatial (h : v.kind.isSpatial = true) : ∃ p, coordinates v = .ok p := by
  cases v with
  | point x y z | vector x y z => exact ⟨_, rfl⟩
  | number | text | boolean | color => cases h

/-- What a formula gives is of the kind that the kinds of the parameters tell. -/
theorem eval_of_kind? {k : Kind} (h : f.kind? (.of ps) = some k) :
    ∃ v, f.eval ps = .ok v ∧ v.kind = k := by
  cases f with
  | radians n =>
    rw [kind?, Option.ite_none_right_eq_some] at h
    obtain ⟨hn, hk⟩ := h
    obtain ⟨v, hv, hvk⟩ := parameter_of_get? hn
    cases v with
    | number x => exact ⟨.number x.radians, by rw [eval, hv]; rfl, Option.some.inj hk⟩
    | text | boolean | point | vector | color => cases hvk
  | displacement start stop =>
    rw [kind?] at h
    split at h
    · next a b ha hb =>
      rw [Option.ite_none_right_eq_some] at h
      obtain ⟨⟨hsa, hsb⟩, hk⟩ := h
      obtain ⟨v, hv, rfl⟩ := parameter_of_get? ha
      obtain ⟨w, hw, rfl⟩ := parameter_of_get? hb
      obtain ⟨p, hp⟩ := coordinates_of_isSpatial hsa
      obtain ⟨q, hq⟩ := coordinates_of_isSpatial hsb
      refine ⟨.vector (q.1.sub p.1) (q.2.1.sub p.2.1) (q.2.2.sub p.2.2), ?_, Option.some.inj hk⟩
      rw [eval, hv, hw]
      simp [bind, Except.bind, hp, hq, pure, Except.pure]
    · cases h

/-- The kinds of what formulas give, if all parameters have what they ask for. -/
def kinds? (ks : Kinds) : Assoc Chars Formula → Option Kinds
  | [] => some []
  | (n, f) :: r => do
    let k ← f.kind? ks
    let ks' ← kinds? ks r
    return (n, k) :: ks'

theorem exists_derived {fs : Assoc Chars Formula} {ks : Kinds}
    (h : kinds? (.of ps) fs = some ks) :
    ∃ vs, Derived ps (derivations fs) vs ∧ Kinds.of vs = ks := by
  induction fs generalizing ks with
  | nil => exact ⟨[], .nil, Option.some.inj h⟩
  | cons p fs ih =>
    obtain ⟨n, f⟩ := p
    obtain ⟨k, hk, h⟩ := Option.bind_eq_some_iff.1 h
    obtain ⟨ks', hks, h⟩ := Option.bind_eq_some_iff.1 h
    obtain ⟨v, hv, hvk⟩ := eval_of_kind? hk
    obtain ⟨vs, hvs, rfl⟩ := ih hks
    refine ⟨(n, v) :: vs, .cons ⟨rfl, hv⟩ hvs, ?_⟩
    rw [← Option.some.inj h, ← hvk]
    rfl

/-- **What formulas give has what all of them have in common.** -/
theorem forall_of_derived {P : Value → Prop} {fs : Assoc Chars Formula} {vs : Assoc Chars Value}
    (hP : ∀ f v, eval ps f = .ok v → P v) (h : Derived ps (derivations fs) vs) :
    ∀ q ∈ vs, P q.2 := by
  induction fs generalizing vs with
  | nil =>
    cases h
    exact fun q hq => absurd hq List.not_mem_nil
  | cons p fs ih =>
    cases h with
    | cons hv hvs => exact List.forall_mem_cons.2 ⟨hP p.2 _ hv.2, ih hvs⟩

end Formula

/-! ## Templates with formulas -/

/-- Whether a template with formulas fits parameters of some kinds. -/
def Template.fits (ks : Kinds) (fs : Assoc Chars Formula) (body : Chars) : Bool :=
  match Formula.kinds? ks fs with
  | some ds => (read body).all (Piece.fits (ds.foldl (fun a p => a.put p.1 p.2) ks))
  | none => false

/-- **A template that fits the kinds of its parameters is filled,** if these can be written. -/
theorem BlockTemplate.fill_of_fits {ps : Assoc Chars Value} {fs : Assoc Chars Formula}
    {t : BlockTemplate} (ht : t.derived = Formula.derivations fs)
    (h : Template.fits (.of ps) fs t.body = true) :
    ∃ vs, Derived ps t.derived vs ∧ t.fill ps =
      if AllWritable ps then
        .ok ((Template.read t.body).flatMap (Template.Piece.shown (shown ps vs)))
      else .error .unwritable := by
  unfold Template.fits at h
  split at h
  · next ds hds =>
    obtain ⟨vs, hvs, rfl⟩ := Formula.exists_derived hds
    have hv : AllWritable vs :=
      Formula.forall_of_derived (fun _ _ => Formula.isWritable_of_eval) hvs
    refine ⟨vs, ht ▸ hvs, ?_⟩
    rw [Kinds.of, Kinds.of, ← Assoc.mapValues_foldl_put] at h
    rw [fill_of_derived (ht ▸ hvs), shown]
    simp only [hv, and_true]
    exact if_congr Iff.rfl (Template.showAll_of_fits t.address h _) rfl
  · cases h

end DraftScript
