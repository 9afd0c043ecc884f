/-
# Parameters that do what they say

A parameter that asks for whole numbers cuts off what is given, but not its own default, and
nothing keeps it from being of another kind than number.  So what it resolves to need not be
a whole number, need not be of its kind, and need not be there:

| kind | default | given value that converts | result |
| --- | --- | --- | --- |
| number | whole | any | a whole number |
| number | not whole | none | the default |
| boolean | | any | a number, one or zero |
| other | | any | a fault |

Any parameter fails, besides, if it refuses a value and the log cannot tell of it: the default or
the value is a color with a channel of too many digits.  So a parameter resolves to a value of its
kind, whole if it asks for that, whatever the command,

| commands | exactly if |
| --- | --- |
| that can be written | its default can be written, and is whole if it asks for whole numbers |
| any | it is a color, its default can be written, and it does not ask for whole numbers |

(`Parameter.reliability`).
-/

import DraftScript.Proofs.Number.Whole
import DraftScript.Proofs.Resolution.Values

namespace DraftScript

/-- Whether a value is a finite number without fraction. -/
def Value.IsWhole (v : Value) : Prop := ∃ x, v = .number x ∧ x.IsWhole

instance : DecidablePred Value.IsWhole
  | .number x => decidable_of_iff x.IsWhole
      ⟨fun h => ⟨x, rfl, h⟩, fun ⟨_, hx, h⟩ => Value.number.inj hx ▸ h⟩
  | .text _ | .boolean _ | .point .. | .vector .. | .color .. =>
    .isFalse fun ⟨_, hx, _⟩ => by cases hx

theorem Value.isWhole_of_whole? {v w : Value} (h : v.whole? = some w) : w.IsWhole := by
  cases v with
  | number x =>
    obtain ⟨y, hy, rfl⟩ := Option.map_eq_some_iff.1 h
    exact ⟨y, rfl, Binary64.isWhole_of_trunc hy⟩
  | text | boolean | point | vector | color => cases h

/-- A value of the kind that is asked for is taken as it is. -/
theorem Value.coerce?_of_kind {v : Value} {k : Kind} (h : v.kind = k) : v.coerce? k = some v := by
  unfold coerce?
  exact if_pos h

namespace Parameter

variable {p : Parameter} {given v : Value}

/-- Whether a parameter resolves, for all commands of some, to a value of its kind, and to a
whole number if it asks for those. -/
def IsReliable (p : Parameter) (commands : Command → Prop) : Prop :=
  ∀ c, commands c → ∀ collected, ∃ v, (Resolution.parameter c p collected).result = .ok v ∧
    v.kind = p.kind ∧ (p.integer = true → v.IsWhole)

/-- Whether there is a command of some for which a parameter does not resolve. -/
def CanFail (p : Parameter) (commands : Command → Prop) : Prop :=
  ∃ c, commands c ∧ ∃ (collected : Bool) (f : RenderFault),
    (Resolution.parameter c p collected).result = .error f

/-- Whether there is a command for which a parameter resolves to a value of another kind. -/
def CanMistype (p : Parameter) : Prop :=
  ∃ (c : Command) (collected : Bool) (v : Value),
    (Resolution.parameter c p collected).result = .ok v ∧ v.kind ≠ p.kind

/-- Only numbers are whole. -/
theorem coherent_of_isWhole (h : p.integer = true → p.default.IsWhole) : p.Coherent := by
  intro hi
  obtain ⟨x, hx, -⟩ := h hi
  rw [kind, hx]
  rfl

theorem isWhole_of_taken? (hi : p.integer = true) (h : p.taken? given = some v) : v.IsWhole := by
  obtain ⟨w, -, hw⟩ := Option.bind_eq_some_iff.1 h
  rw [if_pos hi] at hw
  exact Value.isWhole_of_whole? hw

end Parameter

namespace Resolution

variable {c : Command} {p : Parameter} {collected : Bool} {given v : Value} {f : RenderFault}

theorem isWhole_value (hi : p.integer = true) (h : p.default.IsWhole) : (value c p).IsWhole := by
  rcases value_eq_default_or c p with hd | ⟨given, -, ht⟩
  · rwa [hd]
  · exact Parameter.isWhole_of_taken? hi ht

/-- A finite number that is given for a whole one is cut off. -/
theorem value_of_trunc {x y : Binary64} (hk : p.kind = .number) (hi : p.integer = true)
    (hg : c.get? p.name = some (.number x)) (hx : x.trunc = some y) : value c p = .number y := by
  rw [value, hg, Option.bind_some, Parameter.taken?, Value.coerce?_of_kind (v := .number x) hk.symm,
    Option.bind_some, if_pos hi, Value.whole?, hx]
  rfl

theorem result_parameter_of_none (h : c.get? p.name = none) :
    (parameter c p collected).result = .ok p.default := by
  rw [parameter_of_none h]
  rfl

/-- A given value settles the result by the use that there is for it; if there is none, the log
has to tell of it. -/
theorem result_parameter_of_some (h : c.get? p.name = some given) :
    (parameter c p collected).result = usable? p given >>= fun v => match v with
      | some v => .ok v
      | none => if given.isWritable && p.default.isWritable then .ok p.default
          else .error .unwritable := by
  rw [parameter, h]
  dsimp only
  cases hu : usable? p given with
  | error f =>
    rw [Report.bind_eq_of_error (e := f) rfl]
    rfl
  | ok v =>
    rw [Report.bind_eq_of_ok (a := v) rfl]
    cases v with
    | some v => rfl
    | none =>
      rw [literals_eq]
      simp only [bind, Except.bind]
      cases given.isWritable && p.default.isWritable <;> rfl

/-- A value other than a number or truth value cannot be cut to a whole number. -/
theorem exists_wholeNumber_eq_error_iff :
    (∃ f, v.wholeNumber = .error f) ↔ v.kind ∉ [Kind.number, .boolean] := by
  cases v <;> simp [Value.wholeNumber, Value.kind]

/-- A truth value is cut to a number. -/
theorem kind_of_wholeNumber {w : Value} (h : v.wholeNumber = .ok (some w)) :
    w.kind = .number ∧ (v.kind = .number ∨ v.kind = .boolean) := by
  cases v with
  | number x =>
    obtain ⟨y, -, rfl⟩ := Option.map_eq_some_iff.1 (Except.ok.inj h)
    exact ⟨rfl, .inl rfl⟩
  | boolean b =>
    obtain rfl := Option.some.inj (Except.ok.inj h)
    exact ⟨rfl, .inr rfl⟩
  | text | point | vector | color => cases h

theorem usable?_eq_error (h : usable? p given = .error f) :
    p.integer = true ∧ p.kind ∉ [Kind.number, .boolean] := by
  rw [usable?] at h
  cases hc : given.coerce? p.kind with
  | none => simp [hc] at h
  | some v =>
    rw [hc] at h
    dsimp only at h
    split at h
    · next hi => exact ⟨hi, Value.kind_of_coerce? hc ▸ exists_wholeNumber_eq_error_iff.1 ⟨f, h⟩⟩
    · cases h

theorem kind_of_usable? (h : usable? p given = .ok (some v)) (hk : v.kind ≠ p.kind) :
    p.integer = true ∧ p.kind = .boolean := by
  rw [usable?] at h
  cases hc : given.coerce? p.kind with
  | none => simp [hc] at h
  | some w =>
    have hw := Value.kind_of_coerce? hc
    rw [hc] at h
    dsimp only at h
    split at h
    · next hi =>
      obtain ⟨hv, hn | hb⟩ := kind_of_wholeNumber h
      · exact absurd (hv.trans (hn.symm.trans hw)) hk
      · exact ⟨hi, hw.symm.trans hb⟩
    · rw [Option.some.inj (Except.ok.inj h)] at hw
      exact absurd hw hk

/-- A command that gives a parameter a value. -/
def giving (p : Parameter) (v : Value) : Command := { type := [], parameters := [(p.name, v)] }

theorem get?_giving (p : Parameter) (v : Value) : (giving p v).get? p.name = some v := by
  simp [giving, Command.get?, Assoc.get?]

theorem isWritable_giving (h : v.isWritable = true) : (giving p v).IsWritable :=
  Value.allWritable_cons.2 ⟨h, fun _ hq => absurd hq List.not_mem_nil⟩

/-- A value of its kind that cannot be cut off makes a parameter of whole numbers fail. -/
theorem result_giving_of_wholeNumber (hi : p.integer = true) (hk : v.kind = p.kind)
    (hv : v.wholeNumber = .error f) : (parameter (giving p v) p).result = .error f := by
  rw [result_parameter_of_some (get?_giving p v), usable?, Value.coerce?_of_kind hk]
  dsimp only
  rw [if_pos hi, hv]
  rfl

/-- A value that is refused makes a parameter fail if the log cannot tell of it. -/
theorem result_giving_of_refused (hv : v.coerce? p.kind = none)
    (hw : (v.isWritable && p.default.isWritable) = false) :
    (parameter (giving p v) p).result = .error .unwritable := by
  rw [result_parameter_of_some (get?_giving p v), usable?, hv]
  dsimp only [bind, Except.bind]
  rw [hw]
  rfl

end Resolution

namespace Parameter

variable {p : Parameter}

open Resolution

theorem kind_of_not_isWritable (h : p.default.isWritable = false) : p.kind = .color := by
  by_contra hk
  rw [Value.isWritable_of_kind_ne hk] at h
  cases h

/-- It is taken for no value of another kind. -/
theorem coerce?_overlong {k : Kind} (h : k ≠ .color) : Value.overlong.coerce? k = none := by
  cases k with
  | color => exact absurd rfl h
  | number | text | boolean | point | vector => rfl

/-- A parameter that asks for whole numbers and is of a kind that cannot be cut off fails for
its own default, and one whose default cannot be written for any other kind. -/
theorem canFail_isWritable (h : p.integer = true ∧ p.kind ∉ [Kind.number, .boolean] ∨
    p.default.isWritable = false) : p.CanFail Command.IsWritable := by
  by_cases hd : p.default.isWritable = true
  · obtain ⟨hi, hk⟩ := h.resolve_right (by simp [hd])
    obtain ⟨f, hf⟩ := exists_wholeNumber_eq_error_iff.2 hk
    exact ⟨giving p p.default, isWritable_giving hd, true, f,
      result_giving_of_wholeNumber hi rfl hf⟩
  · rw [Bool.not_eq_true] at hd
    refine ⟨giving p (.text []), isWritable_giving rfl, true, _, result_giving_of_refused ?_ ?_⟩
    · rw [kind_of_not_isWritable hd]
      rfl
    · rw [hd, Bool.and_false]

/-- A parameter that does not resolve is one of those. -/
theorem of_result_eq_error {c : Command} {collected : Bool} {f : RenderFault}
    (h : (parameter c p collected).result = .error f) :
    (p.integer = true ∧ p.kind ∉ [Kind.number, .boolean] ∨ p.default.isWritable = false) ∨
      p.kind ≠ .color ∧ ¬c.IsWritable := by
  cases hg : c.get? p.name with
  | none => simp [result_parameter_of_none hg] at h
  | some given =>
    rw [result_parameter_of_some hg] at h
    cases hu : usable? p given with
    | error g => exact .inl (.inl (usable?_eq_error hu))
    | ok v =>
      rw [hu] at h
      cases v with
      | some v => cases h
      | none =>
        cases hd : p.default.isWritable with
        | false => exact .inl (.inr rfl)
        | true =>
          have hw : given.isWritable = false := by
            cases hw : given.isWritable with
            | false => rfl
            | true => simp [bind, Except.bind, hw, hd] at h
          refine .inr ⟨fun hk => ?_, fun hc => Bool.false_ne_true (hw.symm.trans (hc.get? hg))⟩
          -- A color is taken as one, or cannot be cut off.
          cases given with
          | number | text | boolean | point | vector => cases hw
          | color r g b =>
            rw [usable?, Value.coerce?_of_kind (v := .color r g b) hk.symm] at hu
            dsimp only at hu
            split at hu <;> cases hu

theorem canFail_isWritable_iff : p.CanFail Command.IsWritable ↔
    p.integer = true ∧ p.kind ∉ [Kind.number, .boolean] ∨ p.default.isWritable = false := by
  constructor
  · rintro ⟨c, hc, collected, f, h⟩
    exact (of_result_eq_error h).resolve_right fun h => h.2 hc
  · exact canFail_isWritable

/-- Among all commands there is one for which a parameter fails, unless it takes all colors. -/
theorem canFail_iff : p.CanFail (fun _ => True) ↔
    p.kind ≠ .color ∨ p.integer = true ∨ p.default.isWritable = false := by
  constructor
  · rintro ⟨c, -, collected, f, h⟩
    rcases of_result_eq_error h with (⟨hi, -⟩ | hd) | ⟨hk, -⟩
    · exact .inr (.inl hi)
    · exact .inr (.inr hd)
    · exact .inl hk
  · intro h
    by_cases hk : p.kind = .color
    · have hc : p.integer = true ∧ p.kind ∉ [Kind.number, .boolean] ∨
          p.default.isWritable = false :=
        (h.resolve_left (not_not_intro hk)).imp_left fun hi => ⟨hi, by simp [hk]⟩
      obtain ⟨c, -, hf⟩ := canFail_isWritable hc
      exact ⟨c, trivial, hf⟩
    · have hw : (Value.overlong.isWritable && p.default.isWritable) = false := by
        rw [Value.isWritable_overlong, Bool.false_and]
      exact ⟨giving p .overlong, trivial, true, _,
        result_giving_of_refused (coerce?_overlong hk) hw⟩

theorem canMistype_iff : p.CanMistype ↔ p.integer = true ∧ p.kind = .boolean := by
  constructor
  · rintro ⟨c, collected, v, h, hk⟩
    cases hg : c.get? p.name with
    | none =>
      rw [result_parameter_of_none hg] at h
      exact absurd (congrArg Value.kind (Except.ok.inj h).symm) hk
    | some given =>
      rw [result_parameter_of_some hg] at h
      obtain ⟨w, hu, h⟩ := exists_of_bind_eq_ok h
      cases w with
      | some w =>
        obtain rfl := Except.ok.inj h
        exact kind_of_usable? hu hk
      | none =>
        dsimp only at h
        split at h
        · exact absurd (congrArg Value.kind (Except.ok.inj h).symm) hk
        · cases h
  · rintro ⟨hi, hk⟩
    obtain ⟨b, hb⟩ : ∃ b, p.default = .boolean b := by
      rw [kind] at hk
      cases hd : p.default with
      | boolean b => exact ⟨b, rfl⟩
      | number | text | point | vector | color => simp [hd, Value.kind] at hk
    refine ⟨giving p p.default, true, .number (.ofInt (if b then 1 else 0)), ?_, ?_⟩
    · rw [result_parameter_of_some (get?_giving p _), usable?,
        Value.coerce?_of_kind (v := p.default) (k := p.kind) rfl]
      dsimp only
      rw [if_pos hi, hb]
      rfl
    · rw [hk]
      simp [Value.kind]

/-- **A parameter does what it says if its default can be written,** and is a whole number where
whole numbers are asked for. -/
theorem isReliable_isWritable_iff : p.IsReliable Command.IsWritable ↔
    p.default.isWritable = true ∧ (p.integer = true → p.default.IsWhole) := by
  constructor
  · intro h
    constructor
    · by_contra hd
      obtain ⟨c, hc, collected, f, hf⟩ :=
        canFail_isWritable (.inr (Bool.eq_false_iff.2 hd))
      obtain ⟨v, hv, -⟩ := h c hc collected
      cases hf.symm.trans hv
    · intro hi
      obtain ⟨v, hr, -, hv⟩ := h { type := [] } (fun _ hq => absurd hq List.not_mem_nil) true
      rw [result_parameter_of_none rfl] at hr
      rw [Except.ok.inj hr]
      exact hv hi
  · rintro ⟨hd, hi⟩ c hc collected
    have hr := (parameter_eq (coherent_of_isWhole hi) c collected).1
    rw [isUntold_eq_false hd fun _ => hc.get?] at hr
    exact ⟨value c p, hr, kind_value c p, fun h => isWhole_value h (hi h)⟩

/-- Only a parameter that takes all colors does what it says for all commands. -/
theorem isReliable_iff : p.IsReliable (fun _ => True) ↔
    p.kind = .color ∧ p.integer = false ∧ p.default.isWritable = true := by
  have hfail : ¬p.CanFail (fun _ => True) ↔
      p.kind = .color ∧ p.integer = false ∧ p.default.isWritable = true := by
    simp [canFail_iff]
  rw [← hfail]
  constructor
  · rintro h ⟨c, hc, collected, f, hf⟩
    obtain ⟨v, hv, -⟩ := h c hc collected
    cases hf.symm.trans hv
  · intro h c _ collected
    have hi : p.integer = false := (hfail.1 h).2.1
    cases hr : (parameter c p collected).result with
    | error f => exact absurd ⟨c, trivial, collected, f, hr⟩ h
    | ok v =>
      refine ⟨v, rfl, ?_, by simp [hi]⟩
      by_contra hk
      exact absurd (canMistype_iff.1 ⟨c, collected, v, hr, hk⟩).1 (by simp [hi])

/-- **What a parameter does.**  Among the commands that can be written it resolves to a value of
its kind, and to a whole number if it asks for those, exactly if its default can be written and is
whole where it has to be.  It can fail to resolve exactly if it asks for whole numbers and is of a
kind that cannot be cut off, or if its default cannot be written, and can resolve to a value of
another kind exactly if it asks for whole numbers and is a truth value.  Among all commands only
a color that asks for no whole numbers always resolves. -/
theorem reliability (p : Parameter) :
    (p.IsReliable Command.IsWritable ↔
        p.default.isWritable = true ∧ (p.integer = true → p.default.IsWhole)) ∧
      (p.IsReliable (fun _ => True) ↔
        p.kind = .color ∧ p.integer = false ∧ p.default.isWritable = true) ∧
      (p.CanFail Command.IsWritable ↔
        p.integer = true ∧ p.kind ∉ [Kind.number, .boolean] ∨ p.default.isWritable = false) ∧
      (p.CanFail (fun _ => True) ↔
        p.kind ≠ .color ∨ p.integer = true ∨ p.default.isWritable = false) ∧
      (p.CanMistype ↔ p.integer = true ∧ p.kind = .boolean) :=
  ⟨isReliable_isWritable_iff, isReliable_iff, canFail_isWritable_iff, canFail_iff, canMistype_iff⟩

/-- Parameters that can be declared and are not reliable: one that gives its default two and
a fraction, since nothing else is given, a text that is given where whole numbers are asked for,
and a number for which a color is given that is too long. -/
theorem declared_unreliable :
    let fraction : Value := .number (.ofDecimal false 25 (-1))
    ∃ p q r, declare? "n" .number fraction true [] = some p ∧
      (parameter { type := "P" } p).result = .ok fraction ∧ p.integer = true ∧ ¬fraction.IsWhole ∧
      declare? "n" .text (.text "x") true [] = some q ∧
      (parameter { type := "P", parameters := [("n", .text "a")] } q).result =
        .error .textAsNumber ∧
      declare? "n" .number fraction false [] = some r ∧
      (parameter { type := "P", parameters := [("n", .color (10 ^ digitLimit) 0 0)] } r).result =
        .error .unwritable := by
  have hg : Command.get? { type := "P", parameters := [("n", .overlong)] } "n" = some .overlong :=
    rfl
  refine ⟨_, _, _, rfl, rfl, rfl, by decide +kernel, rfl, rfl, rfl, ?_⟩
  rw [result_parameter_of_some hg, usable?, coerce?_overlong (by decide)]
  dsimp only [bind, Except.bind]
  rw [Value.isWritable_overlong]
  rfl

end Parameter
end DraftScript
