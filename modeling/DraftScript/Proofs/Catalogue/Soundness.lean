/-
# Sound entries

An entry of the catalogue is sound when whole numbers are asked for only where numbers are, when
its defaults can be written, when its template fits the kinds of its parameters, and when the
template ends with a character other than a line feed.  Resolving gives each parameter a value of
its kind, whatever a command gives.  So a sound entry is rendered for every command that gives its
parameters values that can be written, and the text does not end with a line feed; for any other
command the log or a field would show the overlong value, which is the fault (`Entry.Sound.render`).

All entries of the catalogue are sound (`Catalogue.sound_of_mem`).
-/

import DraftScript.Catalogue
import DraftScript.Proofs.Chars.Trim
import DraftScript.Proofs.Registry.Groups
import DraftScript.Proofs.Resolution.Values
import DraftScript.Proofs.Template.Kinds

namespace DraftScript

open Value (AllWritable)

/-- The characters of a text that is written down. -/
theorem Chars.toList_literal (l : Chars) : String.toList (no_index (String.ofList l)) = l :=
  String.toList_ofList

/-! ## Given values that can be written -/

/-- A color is taken as it is, or not at all. -/
theorem Parameter.eq_of_taken? {p : Parameter} {given v : Value} (hg : given.isWritable = false)
    (h : p.taken? given = some v) : v = given := by
  obtain ⟨w, hw, h⟩ := Option.bind_eq_some_iff.1 h
  cases given with
  | number | text | boolean | point | vector => cases hg
  | color r g b =>
    unfold Value.coerce? at hw
    split at hw
    · next hk =>
      obtain rfl := Option.some.inj hw
      split at h
      · cases h
      · exact (Option.some.inj h).symm
    · split at hw <;> simp_all

namespace Resolution

variable {s : Schema} {c : Command}

/-- **All parameters resolve to values that can be written,** and the log can tell of all
defaults that stand in, exactly if the given values can be written, as the defaults can. -/
theorem allWritable_values_iff (hs : s.Coherent)
    (hd : ∀ p ∈ s.parameters, p.default.isWritable = true) :
    s.parameters.any (isUntold c) = false ∧ AllWritable (values s c) ↔
      c.isWritableFor s = true := by
  rw [Command.isWritableFor, List.all_eq_true]
  constructor
  · rintro ⟨hu, hv⟩ p hp
    obtain ⟨q, hq, hl, hn⟩ := s.exists_lastParameter? (List.mem_map_of_mem hp)
    rw [Option.all_eq_true, ← hn]
    intro given hg
    by_contra hw
    rw [Bool.not_eq_true] at hw
    have htaken : (q.taken? given).isNone = false := by
      rw [Parameter.isNone_taken? (hs q hq)]
      have hq := List.any_eq_false.1 hu q hq
      simpa [isUntold, hg, hw] using hq
    obtain ⟨v, ht⟩ := Option.isSome_iff_exists.1 (Option.isNone_eq_false_iff.1 htaken)
    obtain rfl := Parameter.eq_of_taken? hw ht
    have hvalue : (values s c).get? p.name = some v := by
      rw [get?_values, hl, Option.map_some, value, hg, Option.bind_some, ht]
      rfl
    exact Bool.false_ne_true (hw.symm.trans (hv _ (Assoc.mem_of_get? hvalue)))
  · intro h
    have hg : ∀ p ∈ s.parameters, ∀ given, c.get? p.name = some given → given.isWritable = true :=
      fun p hp => (Option.all_eq_true ..).1 (h p hp)
    constructor
    · rw [List.any_eq_false]
      exact fun p hp => by simp [isUntold_eq_false (hd p hp) (hg p hp)]
    · refine Assoc.forall_mem_foldl_put (fun q hq => ?_) fun q hq => absurd hq List.not_mem_nil
      obtain ⟨p, hp, rfl⟩ := List.mem_map.1 hq
      exact isWritable_value (hd p hp) (hg p hp)

/-- What parameters resolve to has the declared kinds. -/
theorem kinds_values (s : Schema) (c : Command) : Kinds.of (values s c) =
    Assoc.ofPairs (s.parameters.map fun p => (p.name, p.kind)) := by
  rw [Kinds.of, values, Assoc.mapValues_ofPairs, Assoc.mapValues, List.map_map]
  refine congrArg Assoc.ofPairs (List.map_congr_left fun p _ => ?_)
  exact congrArg (Prod.mk p.name) (kind_value c p)

end Resolution

/-! ## Sound entries -/

namespace Catalogue

namespace Entry

/-- The kinds of the parameters, by name. -/
def kinds (e : Entry) : Kinds := Assoc.ofPairs (e.parameters.map fun p => (p.name, p.kind))

/-- Whether the last piece of the template is a character, but no line feed. -/
def isClosed (e : Entry) : Bool :=
  match (Template.read e.body).getLast? with
  | some (.char c) => c != '\n'
  | _ => false

/-- Whether an entry can be rendered for every command that can be written. -/
structure Sound (e : Entry) : Prop where
  coherent : e.schema.Coherent
  writable : ∀ p ∈ e.parameters, p.default.isWritable = true
  fits : Template.fits e.kinds e.derived e.body = true
  closed : e.isClosed = true

instance (e : Entry) : Decidable e.Sound :=
  decidable_of_iff (_ ∧ _ ∧ _ ∧ _)
    ⟨fun h => ⟨h.1, h.2.1, h.2.2.1, h.2.2.2⟩,
      fun h => ⟨h.coherent, h.writable, h.fits, h.closed⟩⟩

variable {e : Entry}

/-- What the pieces of a closed template show does not end with a line feed. -/
theorem dropEndWhile_shown (h : e.isClosed = true) (views : Assoc Chars View) :
    Chars.dropEndWhile (· = '\n')
        ((Template.read e.body).flatMap (Template.Piece.shown views)) =
      (Template.read e.body).flatMap (Template.Piece.shown views) := by
  unfold isClosed at h
  split at h
  · next c hc =>
    obtain ⟨ps, hps⟩ := List.getLast?_eq_some_iff.1 hc
    rw [hps, List.flatMap_append, List.flatMap_singleton, Template.Piece.shown,
      Chars.dropEndWhile_concat, if_neg (by simpa using h)]
  · cases h

/-- The pieces of a sound template are shown with the views of what its parameters resolve to. -/
theorem Sound.fill (h : e.Sound) (c : Command) :
    ∃ vs, Derived (Resolution.values e.schema c) e.template.derived vs ∧
      e.schema.render (Resolution.values e.schema c) =
        if AllWritable (Resolution.values e.schema c) then
          .ok ((Template.read e.body).flatMap
            (Template.Piece.shown (BlockTemplate.shown (Resolution.values e.schema c) vs)))
        else .error .unwritable := by
  have hfits : Template.fits (.of (Resolution.values e.schema c)) e.derived e.template.body =
      true := by
    rw [Resolution.kinds_values]
    exact h.fits
  exact BlockTemplate.fill_of_fits rfl hfits

/-- **A sound entry is rendered for every command that gives its parameters what can be written,**
and the text does not end with a line feed. -/
theorem Sound.render (h : e.Sound) {c : Command} (hc : c.isWritableFor e.schema = true)
    (collected : Bool) :
    ∃ vs body, Derived (Resolution.values e.schema c) e.template.derived vs ∧
      body = (Template.read e.body).flatMap
        (Template.Piece.shown (BlockTemplate.shown (Resolution.values e.schema c) vs)) ∧
      (Resolution.all e.schema c collected).result = .ok (Resolution.values e.schema c) ∧
      e.schema.render (Resolution.values e.schema c) = .ok body ∧
      Chars.dropEndWhile (· = '\n') body = body := by
  obtain ⟨vs, hd, hf⟩ := h.fill c
  obtain ⟨hu, hv⟩ := (Resolution.allWritable_values_iff h.coherent h.writable).2 hc
  have hall := (Resolution.all_eq h.coherent c collected).1
  rw [hu] at hall
  rw [if_pos hv] at hf
  exact ⟨vs, _, hd, rfl, hall, hf, dropEndWhile_shown h.closed _⟩

/-- For any other command a sound entry is not rendered: the log or a field cannot show what is
given. -/
theorem Sound.render_error (h : e.Sound) {c : Command} (hc : c.isWritableFor e.schema = false)
    (collected : Bool) :
    ((Resolution.all e.schema c collected).result >>= e.schema.render) = .error .unwritable := by
  obtain ⟨vs, -, hf⟩ := h.fill c
  have hall := (Resolution.all_eq h.coherent c collected).1
  cases hu : e.schema.parameters.any (Resolution.isUntold c) with
  | true =>
    rw [hu] at hall
    rw [hall]
    rfl
  | false =>
    rw [hu] at hall
    rw [hall]
    have hv : ¬AllWritable (Resolution.values e.schema c) := fun hv =>
      Bool.false_ne_true (hc.symm.trans
        ((Resolution.allWritable_values_iff h.coherent h.writable).1 ⟨hu, hv⟩))
    rw [if_neg hv] at hf
    exact hf

end Entry

/-! ## The built-in types -/

/-- The entries with their texts as lists of characters, since the kernel is slow to decode
strings. -/
noncomputable def spelled : {es : List Entry // entries = es} :=
  ⟨_, by
    simp only [entries, solidEntries, curveEntries, annotationEntries, dimensionEntries,
      surfaceEntries, blockEntries, organizationEntries, transformationEntries, booleanEntries,
      visualizationEntries, advancedEntries, entry, derivedEntry, number, count, angle, text,
      point, origin, vector, color, position, normal, inRadians, append, solid, List.map_cons,
      List.map_nil, List.cons_append, List.nil_append, String.toList_append, Chars.toList_literal]
    rfl⟩

/-- **The built-in types are sound.** -/
theorem sound_of_mem : ∀ e ∈ entries, e.Sound := by
  rw [spelled.2]
  decide +kernel

/-- A registered schema is that of an entry. -/
theorem exists_entry_of_get? {type : Chars} {s : Schema} (h : registry.get? type = some s) :
    ∃ e ∈ entries, s = e.schema := by
  rw [registry, Registry.get?_ofList] at h
  obtain ⟨e, he, rfl⟩ := List.mem_map.1 (List.mem_reverse.1 (List.mem_of_find?_eq_some h))
  exact ⟨e, he, rfl⟩

end Catalogue
end DraftScript
