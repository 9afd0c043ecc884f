/-
# What the parameters of a command resolve to

A parameter takes a given value that can be converted to its kind and, if it asks for whole
numbers, is then a finite number (`taken?`); otherwise its default stands in.  A default that
stands in for a given value is logged and warned of, and the log shows both by their literals:

| given value | default | outcome |
| --- | --- | --- |
| taken | | the given value, as it is taken |
| refused | | the default, with a warning |
| refused | one of the two cannot be written | a fault, without a warning |

That is the whole outcome as long as only numbers are cut to whole ones (`Parameter.Coherent`):
then every parameter gets a value of its kind (`kind_value`), unless there is one of which the
log cannot tell (`all_eq`).

Whether warnings are collected is seen in the warnings alone (`agree_all`).
-/

import DraftScript.Proofs.Template.Fields
import DraftScript.Resolution

namespace DraftScript

/-! ## Reports -/

namespace Report

variable {α β : Type} {r s : Report α} {f g : α → Report β}

theorem bind_eq_of_ok {a : α} (h : r.result = .ok a) (f : α → Report β) :
    r >>= f = { result := (f a).result, warnings := r.warnings ++ (f a).warnings,
                events := r.events ++ (f a).events } := by
  change r.bind f = _
  rw [Report.bind, h]

theorem bind_eq_of_error {e : RenderFault} (h : r.result = .error e) (f : α → Report β) :
    r >>= f = { result := .error e, warnings := r.warnings, events := r.events } := by
  change r.bind f = _
  rw [Report.bind, h]

/-- What is made of a result is not warned of. -/
theorem warnings_bind_pure (r : Report α) (g : α → β) :
    (r >>= fun a => pure (g a)).warnings = r.warnings := by
  cases h : r.result with
  | error e => rw [bind_eq_of_error h]
  | ok a =>
    rw [bind_eq_of_ok h]
    exact List.append_nil _

/-- Steps that give a result each, or one and the same fault, end with the first fault; the
warnings of one step come behind those of the step before. -/
theorem each_eq {g : α → β} {ws : α → Diagnostics} {fails : α → Bool} {e : RenderFault}
    {as : List α} (h : ∀ a ∈ as, (f a).result = (if fails a then .error e else .ok (g a)) ∧
      (f a).warnings = if fails a then [] else ws a) :
    (each f as).result = (if as.any fails then .error e else .ok (as.map g)) ∧
      (each f as).warnings = (as.takeWhile (!fails ·)).flatMap ws := by
  induction as with
  | nil => exact ⟨rfl, rfl⟩
  | cons a as ih =>
    obtain ⟨hr, hw⟩ := ih fun b hb => h b (List.mem_cons_of_mem a hb)
    obtain ⟨har, haw⟩ := h a List.mem_cons_self
    rw [List.any_cons, List.takeWhile_cons]
    cases ha : fails a with
    | true =>
      rw [ha] at har haw
      rw [each, bind_eq_of_error har]
      exact ⟨rfl, haw⟩
    | false =>
      rw [ha] at har haw
      rw [each, bind_eq_of_ok har, haw, Bool.false_or]
      cases has : as.any fails with
      | true =>
        rw [has] at hr
        rw [bind_eq_of_error hr, hw]
        exact ⟨rfl, rfl⟩
      | false =>
        rw [has] at hr
        rw [bind_eq_of_ok hr, hw]
        exact ⟨rfl, by simp [pure]⟩

/-- Whether two reports differ in warnings only. -/
structure Agree (r s : Report α) : Prop where
  result : r.result = s.result
  events : r.events = s.events

@[refl] theorem Agree.refl (r : Report α) : Agree r r := ⟨rfl, rfl⟩

theorem agree_warn (a b : Bool) (ds : Diagnostics) : Agree (warn a ds) (warn b ds) := ⟨rfl, rfl⟩

theorem Agree.bind (h : Agree r s) (hf : ∀ a, Agree (f a) (g a)) :
    Agree (r >>= f) (s >>= g) := by
  cases hr : r.result with
  | error e =>
    rw [bind_eq_of_error hr, bind_eq_of_error (h.result ▸ hr)]
    exact ⟨rfl, h.events⟩
  | ok a =>
    rw [bind_eq_of_ok hr, bind_eq_of_ok (h.result ▸ hr)]
    exact ⟨(hf a).result, congrArg₂ _ h.events (hf a).events⟩

theorem Agree.each (hf : ∀ a, Agree (f a) (g a)) (as : List α) :
    Agree (each f as) (each g as) := by
  induction as with
  | nil => rfl
  | cons a as ih => exact (hf a).bind fun b => ih.bind fun bs => .refl _

end Report

/-! ## Commands that can be written -/

/-- Whether all values that a command gives can be written. -/
def Command.IsWritable (c : Command) : Prop := Value.AllWritable c.parameters

instance (c : Command) : Decidable c.IsWritable := inferInstanceAs (Decidable (Value.AllWritable _))

/-- Whether all values that a command gives for the parameters of a schema can be written. -/
def Command.isWritableFor (c : Command) (s : Schema) : Bool :=
  s.parameters.all fun p => (c.get? p.name).all Value.isWritable

theorem Command.IsWritable.get? {c : Command} (hc : c.IsWritable) {name : Chars} {v : Value}
    (h : c.get? name = some v) : v.isWritable = true := hc _ (Assoc.mem_of_get? h)

theorem Command.IsWritable.isWritableFor {c : Command} (hc : c.IsWritable) (s : Schema) :
    c.isWritableFor s = true := by
  refine List.all_eq_true.2 fun p _ => ?_
  cases h : c.get? p.name with
  | none => rfl
  | some given => exact hc.get? h

/-! ## Taking a given value -/

/-- A number has a whole part when it is finite. -/
theorem Binary64.isSome_trunc (x : Binary64) : x.trunc.isSome = x.isFinite := by
  cases x <;> rfl

/-- No conversion makes a value longer than can be written. -/
theorem Value.isWritable_of_coerce? {v w : Value} {k : Kind} (h : v.isWritable = true)
    (hw : v.coerce? k = some w) : w.isWritable = true := by
  unfold coerce? at hw
  split at hw
  · rwa [← Option.some.inj hw]
  · next hk =>
    -- What is made a color is one already.
    refine isWritable_of_kind_ne fun hc => ?_
    split at hw <;> simp_all [Option.map_eq_some_iff] <;> grind [kind]

/-- A number as a whole number, toward zero. -/
def Value.whole? : Value → Option Value
  | .number x => x.trunc.map .number
  | _ => none

namespace Parameter

variable {p : Parameter} {given v : Value}

/-- Whether whole numbers are asked for only where numbers are. -/
def Coherent (p : Parameter) : Prop := p.integer = true → p.kind = .number

instance (p : Parameter) : Decidable p.Coherent := inferInstanceAs (Decidable (_ → _))

/-- A given value as a parameter takes it, if it does: converted to its kind, and cut to a
whole number if it asks for those. -/
def taken? (p : Parameter) (given : Value) : Option Value :=
  (given.coerce? p.kind).bind fun v => if p.integer then v.whole? else some v

/-- Whether a parameter refuses a given value: it has no conversion to the kind, or a whole
number is asked for and it is an infinity or no number. -/
def refuses (p : Parameter) (given : Value) : Bool :=
  match given.coerce? p.kind with
  | none => true
  | some (.number x) => p.integer && !x.isFinite
  | some _ => false

/-- **A coherent parameter takes what it does not refuse.** -/
theorem isNone_taken? (hp : p.Coherent) (given : Value) :
    (p.taken? given).isNone = p.refuses given := by
  rw [taken?, refuses]
  cases hc : given.coerce? p.kind with
  | none => rfl
  | some v =>
    cases hi : p.integer with
    | false => cases v <;> rfl
    | true =>
      have hk : v.kind = .number := (Value.kind_of_coerce? hc).trans (hp hi)
      cases v with
      | number x => simp [Value.whole?, ← Binary64.isSome_trunc x]
      | text | boolean | point | vector | color => cases hk

/-- What is not a color after its conversion can be written, and a color is not converted. -/
theorem isWritable_of_taken? (hg : given.isWritable = true) (h : p.taken? given = some v) :
    v.isWritable = true := by
  obtain ⟨w, hw, h⟩ := Option.bind_eq_some_iff.1 h
  split at h
  · cases w with
    | number x =>
      obtain ⟨y, -, rfl⟩ := Option.map_eq_some_iff.1 h
      rfl
    | text | boolean | point | vector | color => cases h
  · rw [← Option.some.inj h]
    exact Value.isWritable_of_coerce? hg hw

/-- What a parameter takes is of its kind. -/
theorem kind_of_taken? (h : p.taken? given = some v) : v.kind = p.kind := by
  obtain ⟨w, hw, h⟩ := Option.bind_eq_some_iff.1 h
  rw [← Value.kind_of_coerce? hw]
  split at h
  · cases w with
    | number x =>
      obtain ⟨y, -, rfl⟩ := Option.map_eq_some_iff.1 h
      rfl
    | text | boolean | point | vector | color => cases h
  · rw [Option.some.inj h]

end Parameter

/-- The parameter that a name stands for: the last one that is declared by it. -/
def Schema.lastParameter? (s : Schema) (name : Chars) : Option Parameter :=
  s.parameters.reverse.find? fun p => p.name = name

/-- A declared name stands for a parameter. -/
theorem Schema.exists_lastParameter? {s : Schema} {name : Chars} (h : name ∈ s.parameterNames) :
    ∃ p ∈ s.parameters, s.lastParameter? name = some p ∧ p.name = name := by
  obtain ⟨q, hq, rfl⟩ := List.mem_map.1 h
  obtain ⟨p, hp⟩ : ∃ p, s.lastParameter? q.name = some p := by
    rw [← Option.isSome_iff_exists, lastParameter?, List.find?_isSome]
    exact ⟨q, List.mem_reverse.2 hq, by simp⟩
  exact ⟨p, List.mem_reverse.1 (List.mem_of_find?_eq_some hp), hp,
    by simpa using List.find?_some hp⟩

/-- Whether all parameters of a schema are coherent. -/
def Schema.Coherent (s : Schema) : Prop := ∀ p ∈ s.parameters, p.Coherent

instance (s : Schema) : Decidable s.Coherent := inferInstanceAs (Decidable (∀ _ ∈ _, _))

namespace Resolution

variable {s : Schema} {p : Parameter}

/-! ## One parameter -/

/-- What a parameter resolves to: the given value as it is taken, or else the default. -/
def value (c : Command) (p : Parameter) : Value := ((c.get? p.name).bind p.taken?).getD p.default

theorem value_eq_default_or (c : Command) (p : Parameter) : value c p = p.default ∨
    ∃ given, c.get? p.name = some given ∧ p.taken? given = some (value c p) := by
  rw [value]
  cases h : (c.get? p.name).bind p.taken? with
  | none => exact .inl rfl
  | some v => exact .inr (Option.bind_eq_some_iff.1 h)

theorem kind_value (c : Command) (p : Parameter) : (value c p).kind = p.kind := by
  rcases value_eq_default_or c p with hd | ⟨given, -, ht⟩
  · rw [hd]
    rfl
  · exact Parameter.kind_of_taken? ht

/-- What a parameter resolves to can be written, if its default and what is given can. -/
theorem isWritable_value {c : Command} (hd : p.default.isWritable = true)
    (hg : ∀ given, c.get? p.name = some given → given.isWritable = true) :
    (value c p).isWritable = true := by
  rcases value_eq_default_or c p with he | ⟨given, hgiven, ht⟩
  · rwa [he]
  · exact Parameter.isWritable_of_taken? (hg given hgiven) ht

/-- The warning of a parameter whose given value is refused. -/
def misfit? (c : Command) (p : Parameter) : Option Diagnostic :=
  (c.get? p.name).bind fun given => if p.refuses given then some (unusable c p given) else none

/-- Whether the log cannot tell that the default of a parameter stands in for a given value. -/
def isUntold (c : Command) (p : Parameter) : Bool :=
  (c.get? p.name).any fun given =>
    p.refuses given && !(given.isWritable && p.default.isWritable)

/-- What can be written can be told of. -/
theorem isUntold_eq_false {c : Command} (hd : p.default.isWritable = true)
    (hg : ∀ given, c.get? p.name = some given → given.isWritable = true) :
    isUntold c p = false := by
  rw [isUntold, Option.any_eq_false]
  intro given hgiven
  simp [hd, hg given hgiven]

theorem usable?_eq (hp : p.Coherent) (given : Value) : usable? p given = .ok (p.taken? given) := by
  rw [usable?, Parameter.taken?]
  cases hc : given.coerce? p.kind with
  | none => rfl
  | some v =>
    cases hi : p.integer with
    | false => simp
    | true =>
      have hk : v.kind = .number := (Value.kind_of_coerce? hc).trans (hp hi)
      cases v with
      | number x => simp [Value.wholeNumber, Value.whole?]
      | text | boolean | point | vector | color => cases hk

/-- A parameter that is not given has its default. -/
theorem parameter_of_none {c : Command} (h : c.get? p.name = none) (collected : Bool) :
    parameter c p collected = pure p.default := by
  rw [parameter, h]

/-- A given value that a coherent parameter takes is all that comes of it. -/
theorem parameter_of_taken? {c : Command} {given v : Value} (hp : p.Coherent)
    (hg : c.get? p.name = some given) (h : p.taken? given = some v) (collected : Bool) :
    parameter c p collected = pure v := by
  rw [parameter, hg]
  dsimp only
  rw [usable?_eq hp, h]
  rfl

/-- A parameter sees what is given for it; its warning shows type and line as well. -/
theorem parameter_congr {c d : Command} (ht : c.type = d.type) (hl : c.line = d.line)
    (hg : c.get? p.name = d.get? p.name) (collected : Bool) :
    parameter c p collected = parameter d p collected := by
  simp only [parameter, unusable, ht, hl, hg]

/-- The literals of a refused value and of the default are those of the log line. -/
theorem literals_eq (given default : Value) :
    (do return (← given.literal?, ← default.literal?) : Except RenderFault (Chars × Chars)) =
      if given.isWritable && default.isWritable then .ok (given.literal, default.literal)
      else .error .unwritable := by
  rw [Value.literal?, Value.literal?, Value.written, Value.written]
  cases given.isWritable <;> cases default.isWritable <;> rfl

/-- **A coherent parameter resolves,** with a warning if its given value is refused, unless the
log cannot tell of it. -/
theorem parameter_eq (hp : p.Coherent) (c : Command) (collected : Bool) :
    (parameter c p collected).result =
        (if isUntold c p then .error .unwritable else .ok (value c p)) ∧
      (parameter c p collected).warnings =
        if isUntold c p then [] else if collected then (misfit? c p).toList else [] := by
  rw [parameter, value, misfit?, isUntold]
  cases hg : c.get? p.name with
  | none => simp [pure]
  | some given =>
    have hu : (Report.ofExcept (usable? p given)).result = .ok (p.taken? given) :=
      usable?_eq hp given
    have hn := (Parameter.isNone_taken? hp given).symm
    simp only [Option.any_some, Option.bind_some]
    rw [Report.bind_eq_of_ok hu, literals_eq]
    cases ht : p.taken? given with
    | some v =>
      rw [ht] at hn
      simp [hn, pure, Report.ofExcept]
    | none =>
      rw [ht] at hn
      cases hw : given.isWritable && p.default.isWritable with
      | false =>
        rw [hn]
        exact ⟨rfl, rfl⟩
      | true =>
        rw [hn]
        cases collected <;> exact ⟨rfl, rfl⟩

/-- Whether warnings are collected is seen in the warnings of a parameter only. -/
theorem agree_parameter (c : Command) (p : Parameter) (a b : Bool) :
    (parameter c p a).Agree (parameter c p b) := by
  rw [parameter, parameter]
  split
  · rfl
  · refine .bind (.refl _) fun v => ?_
    cases v with
    | some v => rfl
    | none =>
      exact .bind (.refl _) fun _ => .bind (.refl _) fun _ =>
        .bind (Report.agree_warn ..) fun _ => .refl _

/-! ## All parameters -/

/-- The values of all parameters, by name. -/
def values (s : Schema) (c : Command) : Assoc Chars Value :=
  Assoc.ofPairs (s.parameters.map fun p => (p.name, value c p))

theorem get?_values (s : Schema) (c : Command) (name : Chars) :
    (values s c).get? name = (s.lastParameter? name).map (value c) := by
  rw [values, Assoc.get?_ofPairs, ← List.map_reverse, List.find?_map, Schema.lastParameter?,
    Option.map_map]
  rfl

/-- **The parameters of a coherent schema resolve,** with the warnings of undeclared ones and
then of those whose given values are refused, up to the first of which the log cannot tell. -/
theorem all_eq (hs : s.Coherent) (c : Command) (collected : Bool) :
    (all s c collected).result =
        (if s.parameters.any (isUntold c) then .error .unwritable else .ok (values s c)) ∧
      (all s c collected).warnings = if collected then undeclared s c ++
        (s.parameters.takeWhile (!isUntold c ·)).filterMap (misfit? c) else [] := by
  have hp : ∀ p ∈ s.parameters,
      (do return (p.name, ← parameter c p collected) : Report (Chars × Value)).result =
          (if isUntold c p then .error .unwritable else .ok (p.name, value c p)) ∧
        (do return (p.name, ← parameter c p collected) : Report (Chars × Value)).warnings =
          if isUntold c p then [] else if collected then (misfit? c p).toList else [] := by
    intro p hp
    obtain ⟨hr, hw⟩ := parameter_eq (hs p hp) c collected
    rw [Report.warnings_bind_pure, hw]
    cases h : isUntold c p with
    | false =>
      rw [h] at hr
      exact ⟨by rw [Report.bind_eq_of_ok hr]; rfl, rfl⟩
    | true =>
      rw [h] at hr
      exact ⟨by rw [Report.bind_eq_of_error hr]; rfl, rfl⟩
  obtain ⟨hr, hw⟩ := Report.each_eq hp
  rw [all, Report.bind_eq_of_ok rfl]
  cases h : s.parameters.any (isUntold c) with
  | true =>
    rw [h] at hr
    rw [Report.bind_eq_of_error hr, hw]
    refine ⟨rfl, ?_⟩
    cases collected <;> simp [Report.warn, List.filterMap_eq_flatMap_toList]
  | false =>
    rw [h] at hr
    rw [Report.bind_eq_of_ok hr, hw]
    refine ⟨rfl, ?_⟩
    cases collected <;> simp [Report.warn, pure, List.filterMap_eq_flatMap_toList]

/-- Whether warnings are collected is seen in the warnings only. -/
theorem agree_all (s : Schema) (c : Command) (a b : Bool) : (all s c a).Agree (all s c b) :=
  .bind (Report.agree_warn ..) fun _ =>
    .bind (.each (fun p => (agree_parameter c p a b).bind fun _ => .refl _) _) fun _ => .refl _

end Resolution
end DraftScript
