/-
# Whole numbers in blocks

Sides, rows, columns, counts and levels are whole numbers, cut off if need be, and go into
the block by their compact texts:

    PYRAMID(sides=5.9)       pyramid.CreatePyramid(2, 5, 1, 0);
    PYRAMID(sides=1.5e20)    pyramid.CreatePyramid(2, 1.5e+20, 1, 0);

Each place of the template that names the parameter shows that text (`value_shown`), if the command
is rendered at all.  It is a minus sign or none, and digits, as long as the number is below `10^16`
(`counts_shown`); from there on it is written with an exponent, since cutting off does not bound a
number.
-/

import DraftScript.Proofs.Block.Layout
import DraftScript.Proofs.Block.Warnings
import DraftScript.Proofs.Resolution.Whole

namespace DraftScript

/-! ## Places of a template -/

namespace Template

/-- The name and the steps of a field. -/
def Piece.path? : Piece → Option (Chars × List Step)
  | .field f => some (pathName f.path, pathSteps f.path)
  | _ => none

end Template

namespace Catalogue

namespace Entry

/-- The names and steps of the fields of a template, in order. -/
def paths (e : Entry) : List (Chars × List Template.Step) :=
  (Template.read e.body).filterMap Template.Piece.path?

variable {e : Entry} {p : Parameter} {c : Command}

/-- Whether an entry shows a parameter: no other parameter and no derived field takes its
name, and its template has a field of the name and no field of a part of it. -/
structure Places (e : Entry) (p : Parameter) : Prop where
  declared : e.schema.lastParameter? p.name = some p
  not_derived : p.name ∉ Assoc.keys e.derived
  placed : (p.name, []) ∈ e.paths
  steps_eq_nil : ∀ q ∈ e.paths, q.1 = p.name → q.2 = []

instance (e : Entry) (p : Parameter) : Decidable (e.Places p) :=
  decidable_of_iff (_ ∧ _ ∧ _ ∧ ∀ q ∈ e.paths, q.1 = p.name → q.2 = [])
    ⟨fun h => ⟨h.1, h.2.1, h.2.2.1, h.2.2.2⟩,
      fun h => ⟨h.declared, h.not_derived, h.placed, h.steps_eq_nil⟩⟩

/-- **A place of a parameter shows the text of its value.** -/
theorem Places.shown (h : e.Places p) {vs : Assoc Chars Value}
    (hd : Derived (Resolution.values e.schema c) e.template.derived vs) {f : Template.Field}
    (hf : .field f ∈ Template.read e.body) (hn : Template.pathName f.path = p.name) :
    f.shown (BlockTemplate.shown (Resolution.values e.schema c) vs) =
      (Resolution.value c p).display.text := by
  have hk : p.name ∉ vs.keys := by
    rw [← hd.keys_eq, template, Assoc.keys, List.map_map]
    exact h.not_derived
  have hsteps : Template.pathSteps f.path = [] :=
    h.steps_eq_nil _ (List.mem_filterMap.2 ⟨_, hf, rfl⟩) hn
  rw [Template.Field.shown, hn, hsteps, BlockTemplate.get?_shown hk, Resolution.get?_values,
    h.declared]
  rfl

theorem Places.exists_field (h : e.Places p) :
    ∃ f, .field f ∈ Template.read e.body ∧ Template.pathName f.path = p.name := by
  obtain ⟨q, hq, he⟩ := List.mem_filterMap.1 h.placed
  cases q with
  | field f => exact ⟨f, hq, congrArg Prod.fst (Option.some.inj he)⟩
  | char | malformed => cases he

end Entry

/-- **The built-in types show their whole numbers,** and have whole ones as defaults. -/
theorem places_of_mem : ∀ e ∈ entries, ∀ p ∈ e.parameters, p.integer = true →
    p.default.IsWhole ∧ e.Places p := by
  rw [spelled.2]
  decide +kernel

end Catalogue

namespace Block

variable {s : Schema} {p : Parameter} {c : Command}

/-- Whether the block of a command of a built-in type shows a text in the places of a
parameter: its template is filled, in each of its fields that names the parameter with the
text, and there is such a field. -/
def Shows (c : Command) (s : Schema) (p : Parameter) (t : Chars) : Prop :=
  ∃ e ∈ Catalogue.entries, s = e.schema ∧ ∃ views,
    e.template.fields (Resolution.values s c) = .ok views ∧
    (∀ margin collected, (render Catalogue.registry margin c collected).result =
      .ok (indent margin (known c ((Template.read e.body).flatMap
        (Template.Piece.shown views))) ++ "\n\n".toList)) ∧
    (∃ f, .field f ∈ Template.read e.body ∧ Template.pathName f.path = p.name) ∧
    ∀ f, .field f ∈ Template.read e.body → Template.pathName f.path = p.name →
      Template.Piece.shown views (.field f) = t

/-- A parameter in its places is shown by the text of its value. -/
theorem shows_value {e : Catalogue.Entry} (he : e ∈ Catalogue.entries)
    (hs : Catalogue.registry.get? c.type = some e.schema) (hc : isWritten c = true)
    (hp : e.Places p) : Shows c e.schema p (Resolution.value c p).display.text := by
  have hsound := Catalogue.sound_of_mem e he
  have hwritten : c.isWritableFor e.schema = true := by rwa [isWritten, hs] at hc
  obtain ⟨vs, body, hd, hb, -, hf, -⟩ := hsound.render hwritten true
  have hv := (Resolution.allWritable_values_iff hsound.coherent hsound.writable).2 hwritten
  have hfields : e.template.fields (Resolution.values e.schema c) =
      .ok (BlockTemplate.shown (Resolution.values e.schema c) vs) := by
    rw [BlockTemplate.fields_of_derived hd]
    exact if_pos ⟨hv.2, Formula.forall_of_derived (fun _ _ => Formula.isWritable_of_eval) hd⟩
  refine ⟨e, he, rfl, _, hfields, fun margin collected => ?_, hp.exists_field,
    fun f hf hn => hp.shown hd hf hn⟩
  rw [result_render, if_pos hc, builtinText, builtinBody?, hs, Option.bind_some, hf, ← hb]
  rfl

/-- What a parameter of whole numbers resolves to is shown, and is a whole number. -/
theorem value_shown (hs : Catalogue.registry.get? c.type = some s) (hc : isWritten c = true)
    (hp : p ∈ s.parameters) (hi : p.integer = true) :
    (∀ collected, (Resolution.parameter c p collected).result = .ok (Resolution.value c p)) ∧
      (Resolution.value c p).IsWhole ∧ Shows c s p (Resolution.value c p).display.text := by
  obtain ⟨e, he, rfl⟩ := Catalogue.exists_entry_of_get? hs
  obtain ⟨hd, hplaces⟩ := Catalogue.places_of_mem e he p hp hi
  have hsound := Catalogue.sound_of_mem e he
  have hwritten : c.isWritableFor e.schema = true := by rwa [isWritten, hs] at hc
  have hu : Resolution.isUntold c p = false := by
    have hany := ((Resolution.allWritable_values_iff hsound.coherent hsound.writable).2 hwritten).1
    simpa using List.any_eq_false.1 hany p hp
  refine ⟨fun collected => ?_, Resolution.isWhole_value hi hd, shows_value he hs hc hplaces⟩
  rw [(Resolution.parameter_eq (hsound.coherent p hp) c collected).1, hu]
  rfl

/-- **A parameter of whole numbers is shown as an integer numeral exactly below `10^16`.**
Whatever a command of a built-in type gives for it, it resolves to a whole number, and the
block shows the compact text of that number wherever the template names the parameter: its
decimal digits below `10^16`, and a text with an exponent from there on.  There is no block if
the command gives one of the parameters what cannot be written. -/
theorem counts_shown (hs : Catalogue.registry.get? c.type = some s) (hp : p ∈ s.parameters)
    (hi : p.integer = true) :
    (isWritten c = true → ∃ (x : Binary64) (k : ℤ),
      (∀ collected, (Resolution.parameter c p collected).result = .ok (.number x)) ∧
        x.toRat? = some (k : ℚ) ∧ Shows c s p x.compact ∧
        (k.natAbs < 10 ^ 16 → x.compact = Chars.ofInt k) ∧
        (10 ^ 16 ≤ k.natAbs → 'e' ∈ x.compact) ∧
        (IsIntegerNumeral x.compact ↔ k.natAbs < 10 ^ 16)) ∧
    (isWritten c = false → ∀ margin collected,
      (render Catalogue.registry margin c collected).result = .error .unwritable) := by
  constructor
  · intro hc
    obtain ⟨hr, ⟨x, hx, k, hk⟩, hshows⟩ := value_shown hs hc hp hi
    rw [hx] at hr hshows
    exact ⟨x, k, hr, hk, hshows, Binary64.compact_of_lt hk, Binary64.exponent_mem_compact hk,
      Binary64.isIntegerNumeral_compact_iff hk⟩
  · intro hc margin collected
    rw [result_render, hc]
    rfl

/-- A pyramid with a number of sides. -/
def pyramid (x : Binary64) : Command :=
  { type := "PYRAMID", parameters := [("sides", .number x)], line := 1 }

theorem isWritten_pyramid (x : Binary64) : isWritten (pyramid x) = true :=
  isWritten_of_isWritable (List.forall_mem_singleton.2 rfl)

theorem exists_sides : ∃ s p, Catalogue.registry.get? "PYRAMID" = some s ∧ p ∈ s.parameters ∧
    p.integer = true ∧ p.name = "sides" := by
  have h : (Catalogue.registry.get? "PYRAMID").any
      (fun s => s.parameters.any fun p => p.integer && p.name == "sides") = true := by
    decide +kernel
  obtain ⟨s, hs, h⟩ := (Option.any_eq_true ..).1 h
  obtain ⟨p, hp, h⟩ := List.any_eq_true.1 h
  rw [Bool.and_eq_true, beq_iff_eq] at h
  exact ⟨s, p, hs, hp, h⟩

theorem value_sides {x y : Binary64} (hs : Catalogue.registry.get? "PYRAMID" = some s)
    (hp : p ∈ s.parameters) (hi : p.integer = true) (hn : p.name = "sides")
    (hx : x.trunc = some y) : Resolution.value (pyramid x) p = .number y := by
  obtain ⟨e, he, rfl⟩ := Catalogue.exists_entry_of_get? hs
  have hk : p.kind = .number := (Catalogue.sound_of_mem e he).coherent p hp hi
  refine Resolution.value_of_trunc hk hi ?_ hx
  rw [hn]
  rfl

/-- Five sides and nine tenths of one are five sides. -/
theorem sides_shown : ∃ s p, Catalogue.registry.get? "PYRAMID" = some s ∧ p ∈ s.parameters ∧
    p.integer = true ∧ isWritten (pyramid (.ofDecimal false 59 (-1))) = true ∧
      Shows (pyramid (.ofDecimal false 59 (-1))) s p "5" ∧ IsIntegerNumeral "5" := by
  obtain ⟨s, p, hs, hp, hi, hn⟩ := exists_sides
  have hv := value_sides hs hp hi hn (x := .ofDecimal false 59 (-1)) (y := .ofInt 5)
    (by decide +kernel)
  have hc : isWritten (pyramid (.ofDecimal false 59 (-1))) = true :=
    isWritten_pyramid _
  obtain ⟨x, k, hr, hk, hshows, -, -, hiff⟩ :=
    (counts_shown (c := pyramid (.ofDecimal false 59 (-1))) hs hp hi).1 hc
  obtain rfl : .ofInt 5 = x := by
    have he := ((value_shown (c := pyramid _) hs hc hp hi).1 true).symm.trans (hr true)
    rw [hv] at he
    exact Value.number.inj (Except.ok.inj he)
  have hfive : (Binary64.ofInt 5).toInt? = some 5 ∧ (Binary64.ofInt 5).compact = "5" := by
    decide +kernel
  obtain rfl : k = 5 :=
    Option.some.inj ((Binary64.toInt?_eq_some_iff.2 hk).symm.trans hfive.1)
  rw [hfive.2] at hshows hiff
  exact ⟨s, p, hs, hp, hi, hc, hshows, hiff.2 (by norm_num)⟩

/-- A number of sides from `10^16` on is no integer constant. -/
theorem overlong_sides_shown : ∃ s p, Catalogue.registry.get? "PYRAMID" = some s ∧
    p ∈ s.parameters ∧ p.integer = true ∧
      Shows (pyramid (.ofDecimal false 15 19)) s p "1.5e+20" ∧ ¬IsIntegerNumeral "1.5e+20" := by
  obtain ⟨s, p, hs, hp, hi, hn⟩ := exists_sides
  have hshows :=
    (value_shown (c := pyramid (.ofDecimal false 15 19)) hs (isWritten_pyramid _) hp hi).2.2
  have hc : (Binary64.ofDecimal false 15 19).compact = "1.5e+20" := by decide +kernel
  rw [value_sides hs hp hi hn (y := .ofDecimal false 15 19) (by decide +kernel), Value.display, hc]
    at hshows
  exact ⟨s, p, hs, hp, hi, hshows, fun h => h.not_mem (c := 'e') rfl (by decide) (by decide)⟩

end Block
end DraftScript
