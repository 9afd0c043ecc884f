/-
# Settings from a mapping

A mapping whose keys are texts gives settings, or a fault.  Which, depends on the data of its
keys alone and not on their order; the first line that applies decides (`Gives`):

| entries | outcome |
| --- | --- |
| `logging` is neither nothing nor a mapping | `logging` |
| the level in `logging` cannot be described | `description` |
| `indent` is neither a whole number nor a text | `indent` |
| `indent` is a number that is no size of a text | `indentSize` |
| keys other than `logging` are no settings | `unknownKeys`, in order |
| anything else | the settings |

A truth value is no number here.  A setting is the datum of its key, or else its default; a
number of spaces stands for these, and the level in `logging`, in capitals, comes before
`log_level` (`AreGiven`).  A level cannot be described if a number in it is too long to be
written, which is a fault of the value, or if there is no room for its levels of data, which is
none (`HasValueFault`).  So settings can be written down as a mapping of their seven entries
and are read from it as they were (`ofDatum_textKeyed`).
-/

import DraftScript.Settings.Basic
import Mathlib.Algebra.Ring.Int.Defs
import Mathlib.Data.List.Perm.Basic

namespace DraftScript
namespace Settings

/-- The pairs of a mapping whose keys are texts. -/
def textKeyed (ps : Assoc Chars Datum) : Assoc Scalar Datum := ps.map fun p => (.text p.1, p.2)

/-- The data of the seven settings. -/
def entries (s : Settings) : Assoc Chars Datum :=
  [("indent", .text s.indent), ("namespace", s.namespaceName), ("class_name", s.className),
    ("command_method", s.commandMethod), ("header", s.header), ("footer", s.footer),
    ("log_level", s.logLevel)]

/-! ## What the entries of a mapping give -/

section Entries

variable (room : ℕ) (e : Chars → Option Datum)

/-- The entry `logging` is neither nothing nor a mapping. -/
def HasNoSection : Prop := ∃ d, e "logging" = some d ∧ d ≠ .null ∧ ∀ qs, d ≠ .mapping qs

/-- The entry `logging` names a level. -/
def NamesLevel (d : Datum) : Prop :=
  ∃ qs : Assoc Scalar Datum, e "logging" = some (.mapping qs) ∧ qs.get? (.text "level") = some d

/-- Nothing is wrong with the entry `logging`. -/
def LoggingIsRead : Prop := ¬HasNoSection e ∧ ∀ d, NamesLevel e d → d.fault? room = none

/-- There is room for the level that the entry `logging` names. -/
def LevelHasRoom : Prop := ∀ d, NamesLevel e d → d.fault? room ≠ some .nested

/-- The entry `indent` is neither a whole number nor a text. -/
def HasNoIndent : Prop :=
  ∃ d, e "indent" = some d ∧ (∀ n, d ≠ .scalar (.whole n)) ∧ ∀ t, d ≠ .text t

/-- If the entry `indent` is a number, then it is a size. -/
def IndentIsSize : Prop :=
  ∀ n, e "indent" = some (.scalar (.whole n)) → -sizeLimit ≤ n ∧ n < sizeLimit

/-- A key with a datum is neither a setting nor `logging`. -/
def IsUnknown (k : Chars) : Prop := (e k).isSome ∧ k ∉ keys ∧ k ≠ "logging"

/-- Every entry has the kind that it should have. -/
def HasRightKinds : Prop := ¬HasNoSection e ∧ ¬HasNoIndent e ∧ ∀ k, ¬IsUnknown e k

/-- What stands for a setting in the place of the datum of its key. -/
inductive Replaces : Chars → Datum → Prop
  | spaces {n : Int} (h : e "indent" = some (.scalar (.whole n))) :
    Replaces "indent" (.text (List.replicate n.toNat ' '))
  | level {d : Datum} (h : NamesLevel e d) : Replaces "log_level" (.text (Chars.upper d.describe))

/-- Settings are what is given, and the default otherwise. -/
structure AreGiven (s : Settings) : Prop where
  replaced : ∀ k d, Replaces e k d → s.entries.get? k = some d
  given : ∀ k ∈ keys, (∀ d, ¬Replaces e k d) →
    s.entries.get? k = (e k).or ((entries {}).get? k)

/-- What comes of the entries.  Each outcome takes that none of the faults before it is there. -/
inductive Gives : Except SettingsFault Settings → Prop
  | logging (h : HasNoSection e) : Gives (.error .logging)
  | description {d : Datum} {f : DescriptionFault} (h : NamesLevel e d)
    (hd : d.fault? room = some f) : Gives (.error (.description f))
  | indent (hl : LoggingIsRead room e) (h : HasNoIndent e) : Gives (.error .indent)
  | indentSize {n : Int} (hl : LoggingIsRead room e)
    (h : e "indent" = some (.scalar (.whole n))) (hn : n < -sizeLimit ∨ sizeLimit ≤ n) :
    Gives (.error .indentSize)
  | unknownKeys {ks : List Chars} (hl : LoggingIsRead room e) (hi : ¬HasNoIndent e)
    (hp : IndentIsSize e) (hne : ks ≠ []) (hs : ks.Pairwise (· < ·))
    (hk : ∀ k, k ∈ ks ↔ IsUnknown e k) : Gives (.error (.unknownKeys ks))
  | settings {s : Settings} (hl : LoggingIsRead room e) (hi : ¬HasNoIndent e)
    (hp : IndentIsSize e) (hk : ∀ k, ¬IsUnknown e k) (hs : AreGiven e s) : Gives (.ok s)

/-- The entries have a fault of a value, which none of another sort comes before. -/
def HasValueFault : Prop :=
  HasNoSection e ∨ (∃ d, NamesLevel e d ∧ d.fault? room = some .unwritable) ∨
    LevelHasRoom room e ∧ (HasNoIndent e ∨ IndentIsSize e ∧ ∃ k, IsUnknown e k)

end Entries

variable {room : ℕ} {e : Chars → Option Datum}

theorem not_hasNoSection_of_eq_none (h : e "logging" = none) : ¬HasNoSection e := by
  rintro ⟨d, hd, -⟩
  cases hd.symm.trans h

theorem loggingIsRead_of_eq_none (h : e "logging" = none) : LoggingIsRead room e := by
  refine ⟨not_hasNoSection_of_eq_none h, fun d ⟨qs, hqs, _⟩ => ?_⟩
  cases hqs.symm.trans h

theorem not_hasNoIndent_of_whole {n : Int} (h : e "indent" = some (.scalar (.whole n))) :
    ¬HasNoIndent e := by
  rintro ⟨d, hd, hn, -⟩
  exact hn n (Option.some.inj (hd.symm.trans h))

theorem namesLevel_inj {d d' : Datum} (h : NamesLevel e d) (h' : NamesLevel e d') : d = d' := by
  obtain ⟨qs, hqs, hd⟩ := h
  obtain ⟨qs', hqs', hd'⟩ := h'
  cases hqs.symm.trans hqs'
  exact Option.some.inj (hd.symm.trans hd')

theorem replaces_indent_iff {d : Datum} : Replaces e "indent" d ↔
    ∃ n, e "indent" = some (.scalar (.whole n)) ∧ d = .text (List.replicate n.toNat ' ') := by
  constructor
  · generalize hk : "indent".toList = k
    rintro (h | h)
    · exact ⟨_, h, rfl⟩
    · exact absurd hk (by decide)
  · rintro ⟨n, h, rfl⟩
    exact .spaces h

theorem replaces_logLevel_iff {d : Datum} : Replaces e "log_level" d ↔
    ∃ l, NamesLevel e l ∧ d = .text (Chars.upper l.describe) := by
  constructor
  · generalize hk : "log_level".toList = k
    rintro (h | h)
    · exact absurd hk (by decide)
    · exact ⟨_, h, rfl⟩
  · rintro ⟨l, h, rfl⟩
    exact .level h

/-- Settings with the same entries are the same. -/
theorem eq_of_entries {s t : Settings} (h : ∀ k ∈ keys, s.entries.get? k = t.entries.get? k) :
    s = t := by
  cases s
  cases t
  simpa [keys, entries, Assoc.get?, Datum.text] using h

/-- No others are given. -/
theorem AreGiven.unique {s t : Settings} (hs : AreGiven e s) (ht : AreGiven e t) : s = t := by
  refine eq_of_entries fun k hk => ?_
  by_cases hr : ∃ d, Replaces e k d
  · obtain ⟨d, hd⟩ := hr
    rw [hs.replaced k d hd, ht.replaced k d hd]
  · rw [not_exists] at hr
    rw [hs.given k hk hr, ht.given k hk hr]

theorem LoggingIsRead.levelHasRoom (h : LoggingIsRead room e) : LevelHasRoom room e := by
  intro d hd hf
  rw [h.2 d hd] at hf
  cases hf

/-- With nothing wrong in `logging` a fault of a value is one of the entries behind it. -/
theorem LoggingIsRead.hasValueFault_iff (h : LoggingIsRead room e) :
    HasValueFault room e ↔ HasNoIndent e ∨ IndentIsSize e ∧ ∃ k, IsUnknown e k := by
  refine ⟨?_, fun hv => .inr (.inr ⟨h.levelHasRoom, hv⟩)⟩
  rintro (hs | ⟨d, hd, hf⟩ | ⟨-, hv⟩)
  · exact absurd hs h.1
  · rw [h.2 d hd] at hf
    cases hf
  · exact hv

/-- What the level in `logging` cannot be described for decides alone. -/
theorem hasValueFault_iff_of_fault? {d : Datum} {f : DescriptionFault} (h : NamesLevel e d)
    (hd : d.fault? room = some f) : HasValueFault room e ↔ f = .unwritable := by
  constructor
  · rintro (⟨d', hd', -, hm⟩ | ⟨d', hd', hf⟩ | ⟨hr, -⟩)
    · obtain ⟨qs, hqs, -⟩ := h
      exact absurd (Option.some.inj (hd'.symm.trans hqs)) (hm qs)
    · cases namesLevel_inj h hd'
      exact Option.some.inj (hd.symm.trans hf)
    · cases f with
      | unwritable => rfl
      | nested => exact absurd hd (hr d h)
  · rintro rfl
    exact .inr (.inl ⟨d, h, hd⟩)

/-- A fault of a value is told just if there is one. -/
theorem Gives.exists_isOfValue_iff {r : Except SettingsFault Settings} (h : Gives room e r) :
    (∃ f, r = .error f ∧ f.isOfValue) ↔ HasValueFault room e := by
  cases h with
  | logging h => exact ⟨fun _ => .inl h, fun _ => ⟨_, rfl, rfl⟩⟩
  | @description d f h hd =>
    rw [hasValueFault_iff_of_fault? h hd]
    cases f with
    | unwritable => exact ⟨fun _ => rfl, fun _ => ⟨_, rfl, rfl⟩⟩
    | nested =>
      refine ⟨?_, nofun⟩
      rintro ⟨_, ⟨⟩, ⟨⟩⟩
  | indent hl h => exact ⟨fun _ => hl.hasValueFault_iff.2 (.inl h), fun _ => ⟨_, rfl, rfl⟩⟩
  | indentSize hl h hn =>
    rw [hl.hasValueFault_iff]
    refine ⟨?_, ?_⟩
    · rintro ⟨_, ⟨⟩, ⟨⟩⟩
    · rintro (hi | ⟨hp, -⟩)
      · exact absurd hi (not_hasNoIndent_of_whole h)
      · have hsize := hp _ h
        omega
  | unknownKeys hl hi hp hne _ hk =>
    obtain ⟨k, hks⟩ := List.exists_mem_of_ne_nil _ hne
    exact ⟨fun _ => hl.hasValueFault_iff.2 (.inr ⟨hp, k, (hk k).1 hks⟩), fun _ => ⟨_, rfl, rfl⟩⟩
  | settings hl hi hp hk _ =>
    rw [hl.hasValueFault_iff]
    refine ⟨?_, ?_⟩
    · rintro ⟨_, ⟨⟩, _⟩
    · rintro (h | ⟨-, k, h⟩)
      · exact absurd h hi
      · exact absurd h (hk k)

/-! ## The entries `logging` and `indent` -/

section Steps

variable {ps : Assoc Scalar Datum}

theorem loggingLevel?_of_hasNoSection (h : HasNoSection (find? ps)) :
    loggingLevel? room ps = .error .logging := by
  obtain ⟨d, hd, hnull, hmapping⟩ := h
  unfold loggingLevel?
  rw [hd]
  split
  · next h => cases h
  · next h => exact absurd (Option.some.inj h) hnull
  · next qs h => exact absurd (Option.some.inj h) (hmapping qs)
  · rfl

theorem loggingLevel?_of_namesLevel {d : Datum} (h : NamesLevel (find? ps) d) :
    loggingLevel? room ps = match d.fault? room with
      | some f => .error (.description f)
      | none => .ok (some (.text (Chars.upper d.describe))) := by
  obtain ⟨qs, hqs, hd⟩ := h
  rw [loggingLevel?, hqs]
  simp only [find?, hd, Datum.describe?]
  cases d.fault? room <;> rfl

theorem loggingLevel?_of_not_namesLevel (h : ¬HasNoSection (find? ps))
    (hn : ∀ d, ¬NamesLevel (find? ps) d) : loggingLevel? room ps = .ok none := by
  unfold loggingLevel?
  split
  · rfl
  · rfl
  · next qs hqs =>
    cases hl : find? qs "level" with
    | none => rfl
    | some l => exact absurd ⟨qs, hqs, hl⟩ (hn l)
  · next d hnull hmapping hd =>
    exact absurd ⟨d, hd, hnull, hmapping⟩ h

theorem indentText?_of_hasNoIndent (h : HasNoIndent (find? ps)) :
    indentText? ps = .error .indent := by
  obtain ⟨d, hd, hwhole, htext⟩ := h
  unfold indentText?
  rw [hd]
  split
  · next h => cases h
  · next n h => exact absurd (Option.some.inj h) (hwhole n)
  · next t h => exact absurd (Option.some.inj h) (htext t)
  · rfl

theorem indentText?_of_whole {n : Int} (h : find? ps "indent" = some (.scalar (.whole n))) :
    indentText? ps = (spaces n).map some := by
  rw [indentText?, h]

/-- The level of the entry `logging` is what stands in the place of `log_level`. -/
theorem exists_loggingLevel? (h : LoggingIsRead room (find? ps)) :
    ∃ o, loggingLevel? room ps = .ok o ∧ ∀ d, o = some d ↔ Replaces (find? ps) "log_level" d := by
  by_cases hn : ∃ d, NamesLevel (find? ps) d
  · obtain ⟨l, hl⟩ := hn
    refine ⟨_, by rw [loggingLevel?_of_namesLevel hl, h.2 l hl], fun d => ?_⟩
    rw [replaces_logLevel_iff, Option.some.injEq]
    refine ⟨fun hd => ⟨l, hl, hd.symm⟩, ?_⟩
    rintro ⟨l', hl', rfl⟩
    rw [namesLevel_inj hl hl']
  · rw [not_exists] at hn
    refine ⟨none, loggingLevel?_of_not_namesLevel h.1 hn, fun d => ?_⟩
    rw [replaces_logLevel_iff]
    exact ⟨nofun, fun ⟨l, hl, _⟩ => absurd hl (hn l)⟩

/-- The text of the entry `indent` is what stands in its place, or the entry itself. -/
theorem exists_indentText? (hi : ¬HasNoIndent (find? ps)) (hp : IndentIsSize (find? ps)) :
    ∃ o, indentText? ps = .ok o ∧
      (∀ d, Replaces (find? ps) "indent" d → o.map Datum.text = some d) ∧
      ((∀ d, ¬Replaces (find? ps) "indent" d) → o.map Datum.text = find? ps "indent") := by
  simp only [replaces_indent_iff]
  cases hd : find? ps "indent" with
  | none =>
    refine ⟨none, by rw [indentText?, hd], ?_, fun _ => rfl⟩
    rintro _ ⟨_, ⟨⟩, _⟩
  | some d =>
    by_cases hw : ∃ n, d = .scalar (.whole n)
    · obtain ⟨n, rfl⟩ := hw
      have hn := hp n hd
      have hspaces : spaces n = .ok (List.replicate n.toNat ' ') := by
        rw [spaces, if_neg (by omega)]
      refine ⟨_, by rw [indentText?_of_whole hd, hspaces]; rfl, ?_, fun h => ?_⟩
      · rintro _ ⟨m, ⟨⟩, rfl⟩
        rfl
      · exact absurd ⟨n, rfl, rfl⟩ (h _)
    rw [not_exists] at hw
    by_cases ht : ∃ t, d = .text t
    · obtain ⟨t, rfl⟩ := ht
      refine ⟨some t, by rw [indentText?, hd]; rfl, ?_, fun _ => rfl⟩
      rintro _ ⟨_, ⟨⟩, _⟩
    · exact absurd ⟨d, hd, hw, not_exists.1 ht⟩ hi

/-- Every setting is given by what is found for it. -/
theorem areGiven_mk {level : Option Datum} {indent : Option Chars}
    (hl : ∀ d, level = some d ↔ Replaces e "log_level" d)
    (hr : ∀ d, Replaces e "indent" d → indent.map Datum.text = some d)
    (hi : (∀ d, ¬Replaces e "indent" d) → indent.map Datum.text = e "indent") :
    AreGiven e {
      indent := indent.getD ({} : Settings).indent
      namespaceName := (e "namespace").getD ({} : Settings).namespaceName
      className := (e "class_name").getD ({} : Settings).className
      commandMethod := (e "command_method").getD ({} : Settings).commandMethod
      header := (e "header").getD ({} : Settings).header
      footer := (e "footer").getD ({} : Settings).footer
      logLevel := (level <|> e "log_level").getD ({} : Settings).logLevel } := by
  constructor
  · intro k d h
    cases h with
    | spaces h =>
      obtain ⟨t, rfl, ht⟩ := Option.map_eq_some_iff.1 (hr _ (.spaces h))
      exact congrArg some ht
    | level h =>
      rw [(hl _).2 (.level h)]
      rfl
  · intro k hk h
    simp only [keys, List.mem_cons, List.not_mem_nil, or_false] at hk
    rcases hk with rfl | rfl | rfl | rfl | rfl | rfl | rfl
    · rw [← hi h]
      cases indent <;> rfl
    · exact (Option.or_some ..).symm
    · exact (Option.or_some ..).symm
    · exact (Option.or_some ..).symm
    · exact (Option.or_some ..).symm
    · exact (Option.or_some ..).symm
    · have hnone : level = none := Option.eq_none_iff_forall_ne_some.2 fun d hd => h d ((hl d).1 hd)
      rw [hnone]
      exact (Option.or_some ..).symm

/-- With nothing wrong in `logging` and `indent` there are settings, but for strange keys. -/
theorem exists_ofMapping_eq (hl : LoggingIsRead room (find? ps)) (hi : ¬HasNoIndent (find? ps))
    (hp : IndentIsSize (find? ps)) :
    ∃ s, AreGiven (find? ps) s ∧ ofMapping room ps =
      if strangeKeys ps ≠ [] then .error (strangeFault (strangeKeys ps)) else .ok s := by
  obtain ⟨level, hlevel, hgives⟩ := exists_loggingLevel? hl
  obtain ⟨indent, hindent, hreplaced, hgiven⟩ := exists_indentText? hi hp
  refine ⟨_, areGiven_mk hgives hreplaced hgiven, ?_⟩
  rw [ofMapping, hlevel, hindent]
  simp only [bind, Except.bind]
  split <;> rfl

theorem ofMapping_of_loggingLevel? {f : SettingsFault} (h : loggingLevel? room ps = .error f) :
    ofMapping room ps = .error f := by
  rw [ofMapping, h]
  rfl

theorem ofMapping_of_indentText? {f : SettingsFault} (hl : LoggingIsRead room (find? ps))
    (h : indentText? ps = .error f) : ofMapping room ps = .error f := by
  obtain ⟨level, hlevel, -⟩ := exists_loggingLevel? hl
  rw [ofMapping, hlevel, h]
  rfl

end Steps

/-! ## Keys that are texts -/

section TextKeys

variable {ps : Assoc Chars Datum}

theorem find?_textKeyed (ps : Assoc Chars Datum) : find? (textKeyed ps) = ps.get? := by
  funext k
  rw [find?]
  induction ps with
  | nil => rfl
  | cons p ps ih =>
    rw [textKeyed, List.map_cons, Assoc.get?, Assoc.get?]
    simp only [Scalar.text.injEq]
    rw [← textKeyed, ih]

/-- No text comes twice in the order. -/
theorem pairwise_sorted {ts : List Chars} (h : ts.Nodup) : (sorted ts).Pairwise (· < ·) := by
  have hle : (sorted ts).Pairwise fun a b => ¬b < a := by
    refine (List.pairwise_mergeSort ?_ ?_ ts).imp ?_
    · intro a b c hab hbc
      simp only [Bool.not_eq_true', decide_eq_false_iff_not, List.not_lt] at hab hbc ⊢
      exact List.le_trans hab hbc
    · intro a b
      simp only [Bool.or_eq_true, Bool.not_eq_true', decide_eq_false_iff_not, List.not_lt]
      exact List.le_total a b
    · intro a b hab
      simpa using hab
  have hne : (sorted ts).Pairwise (· ≠ ·) := (List.mergeSort_perm ts _).nodup_iff.2 h
  refine (hle.and hne).imp fun ⟨hab, hne⟩ => ?_
  by_contra hlt
  exact hne (List.le_antisymm (List.not_lt.1 hab) (List.not_lt.1 hlt))

/-- Only one list has these texts in order. -/
theorem eq_of_pairwise_lt {ks ls : List Chars} (hk : ks.Pairwise (· < ·))
    (hl : ls.Pairwise (· < ·)) (h : ∀ k, k ∈ ks ↔ k ∈ ls) : ks = ls := by
  have hnodup : ∀ {ts : List Chars}, ts.Pairwise (· < ·) → ts.Nodup := by
    refine fun ht => ht.imp fun {a b} hlt heq => ?_
    exact List.lt_irrefl b (heq ▸ hlt)
  refine List.Perm.eq_of_pairwise (fun a b _ _ hab hba => ?_) hk hl
    ((List.perm_ext_iff_of_nodup (hnodup hk) (hnodup hl)).2 h)
  exact absurd (List.lt_trans hab hba) (List.lt_irrefl a)

theorem strangeKeys_textKeyed (ps : Assoc Chars Datum) : strangeKeys (textKeyed ps) =
    (ps.keys.filter fun k => k ∉ keys ++ ["logging".toList]).map .text := by
  have hkeys : (textKeyed ps).keys = ps.keys.map .text := by
    simp [textKeyed, Assoc.keys]
  have hmem : ∀ k, Scalar.text k ∈ (keys ++ ["logging".toList]).map Scalar.text ↔
      k ∈ keys ++ ["logging".toList] := fun k =>
    List.mem_map_of_injective fun a b h => Scalar.text.inj h
  rw [strangeKeys, hkeys, List.filter_map]
  congr 1
  refine List.filter_congr fun k _ => ?_
  simp only [Function.comp_apply, hmem]

theorem strangeFault_text (ks : List Chars) :
    strangeFault (ks.map .text) = .unknownKeys (sorted ks) := by
  have h : (ks.map Scalar.text).mapM keyText? = some ks := by
    induction ks with
    | nil => rfl
    | cons k ks ih => rw [List.map_cons, List.mapM_cons, ih]; rfl
  unfold strangeFault
  rw [h]

/-- With nothing wrong in `logging` and `indent` the unknown keys decide. -/
theorem exists_ofMapping_textKeyed_eq (h : ps.keys.Nodup) (hl : LoggingIsRead room ps.get?)
    (hi : ¬HasNoIndent ps.get?) (hp : IndentIsSize ps.get?) :
    ∃ ks s, ks.Pairwise (· < ·) ∧ (∀ k, k ∈ ks ↔ IsUnknown ps.get? k) ∧ AreGiven ps.get? s ∧
      ofMapping room (textKeyed ps) = if ks ≠ [] then .error (.unknownKeys ks) else .ok s := by
  rw [← find?_textKeyed] at hl hi hp
  obtain ⟨s, hs, heq⟩ := exists_ofMapping_eq hl hi hp
  rw [find?_textKeyed] at hs
  refine ⟨sorted (ps.keys.filter fun k => k ∉ keys ++ ["logging".toList]), s,
    pairwise_sorted (h.filter _), fun k => ?_, hs, ?_⟩
  · rw [sorted, List.mem_mergeSort, List.mem_filter, ← Assoc.has_iff_mem_keys]
    simp [IsUnknown, Assoc.has]
  · rw [heq, strangeKeys_textKeyed, strangeFault_text]
    have hnil : ∀ ts : List Chars, sorted ts = [] ↔ ts.map Scalar.text = [] := fun ts => by
      rw [List.map_eq_nil_iff, ← List.length_eq_zero_iff, sorted, List.length_mergeSort,
        List.length_eq_zero_iff]
    simp only [ne_eq, hnil]

/-- What the entries give is the outcome. -/
theorem Gives.ofMapping_eq (h : ps.keys.Nodup) {r : Except SettingsFault Settings}
    (hr : Gives room ps.get? r) : ofMapping room (textKeyed ps) = r := by
  have hfind := find?_textKeyed ps
  cases hr with
  | logging hs => exact ofMapping_of_loggingLevel? (loggingLevel?_of_hasNoSection (hfind ▸ hs))
  | description hd hf =>
    refine ofMapping_of_loggingLevel? ?_
    rw [loggingLevel?_of_namesLevel (hfind ▸ hd), hf]
  | indent hl hi =>
    exact ofMapping_of_indentText? (hfind ▸ hl) (indentText?_of_hasNoIndent (hfind ▸ hi))
  | indentSize hl hn hsize =>
    refine ofMapping_of_indentText? (hfind ▸ hl) ?_
    rw [indentText?_of_whole (hfind ▸ hn), spaces, if_pos hsize]
    rfl
  | unknownKeys hl hi hp hne hks hmem =>
    obtain ⟨ls, s, hls, hmem', -, heq⟩ := exists_ofMapping_textKeyed_eq h hl hi hp
    obtain rfl := eq_of_pairwise_lt hks hls fun k => (hmem k).trans (hmem' k).symm
    rw [heq, if_pos hne]
  | settings hl hi hp hk hs =>
    obtain ⟨ks, t, -, hmem, ht, heq⟩ := exists_ofMapping_textKeyed_eq h hl hi hp
    have hnil : ks = [] := List.eq_nil_iff_forall_not_mem.2 fun k hks => hk k ((hmem k).1 hks)
    rw [heq, if_neg (not_not.2 hnil), ht.unique hs]

/-- Something is given by any entries. -/
theorem exists_gives (room : ℕ) (h : ps.keys.Nodup) : ∃ r, Gives room ps.get? r := by
  by_cases hs : HasNoSection ps.get?
  · exact ⟨_, .logging hs⟩
  by_cases hw : ∃ d, NamesLevel ps.get? d ∧ d.fault? room ≠ none
  · obtain ⟨d, hd, hw⟩ := hw
    obtain ⟨f, hf⟩ := Option.ne_none_iff_exists'.1 hw
    exact ⟨_, .description hd hf⟩
  have hl : LoggingIsRead room ps.get? := ⟨hs, by simpa using hw⟩
  by_cases hi : HasNoIndent ps.get?
  · exact ⟨_, .indent hl hi⟩
  by_cases hp : IndentIsSize ps.get?
  · obtain ⟨ks, s, hks, hmem, hgiven, -⟩ := exists_ofMapping_textKeyed_eq h hl hi hp
    by_cases hne : ks = []
    · subst hne
      exact ⟨_, .settings hl hi hp (fun k hk => List.not_mem_nil ((hmem k).2 hk)) hgiven⟩
    · exact ⟨_, .unknownKeys hl hi hp hne hks hmem⟩
  · simp only [IndentIsSize, not_forall] at hp
    obtain ⟨n, hn, hfar⟩ := hp
    exact ⟨_, .indentSize hl hn (by omega)⟩

theorem ofMapping_eq_iff (h : ps.keys.Nodup) {r : Except SettingsFault Settings} :
    ofMapping room (textKeyed ps) = r ↔ Gives room ps.get? r := by
  refine ⟨?_, Gives.ofMapping_eq h⟩
  rintro rfl
  obtain ⟨r, hr⟩ := exists_gives room h
  rwa [hr.ofMapping_eq h]

/-- No content gives what no entries give: the default settings. -/
theorem ofDatum_mapping (qs : Assoc Scalar Datum) :
    ofDatum room (.mapping qs) = ofMapping room qs := by
  cases qs with
  | nil => rfl
  | cons q qs => rfl

theorem not_isUnknown (h : ∀ k ∈ ps.keys, k ∈ keys ∨ k = "logging") (k : Chars) :
    ¬IsUnknown ps.get? k := by
  rintro ⟨hk, hkeys, hlogging⟩
  exact (h k (Assoc.has_iff_mem_keys.1 hk)).elim hkeys hlogging

/-- Settings are what their own entries give. -/
theorem gives_entries (s : Settings) : Gives room s.entries.get? (.ok s) := by
  have hindent : s.entries.get? "indent" = some (.text s.indent) := rfl
  have hhas : ∀ k, (s.entries.get? k).isSome ↔ k ∈ keys := fun k => Assoc.has_iff_mem_keys
  have hlevel : s.entries.get? "logging" = none := rfl
  refine .settings (loggingIsRead_of_eq_none hlevel) ?_ ?_ (fun k hk => ?_) ⟨?_, fun k hk _ => ?_⟩
  · rintro ⟨d, hd, -, ht⟩
    exact ht s.indent (Option.some.inj (hd.symm.trans hindent))
  · intro n hn
    cases hn.symm.trans hindent
  · exact hk.2.1 ((hhas k).1 hk.1)
  · rintro k d (h | ⟨qs, hqs, -⟩)
    · cases h.symm.trans hindent
    · cases hqs.symm.trans hlevel
  · exact (Option.or_of_isSome ((hhas k).2 hk)).symm

/-- **A mapping whose keys are texts gives what its entries tell.**  A fault of a value is
told just if there is one and none of another sort comes before it; the order of the keys does
not matter; and settings are read from their own entries as they were. -/
theorem ofDatum_textKeyed (room : ℕ) (h : ps.keys.Nodup) :
    (∀ r, ofDatum room (.mapping (textKeyed ps)) = r ↔ Gives room ps.get? r) ∧
    ((∃ f, ofDatum room (.mapping (textKeyed ps)) = .error f ∧ f.isOfValue) ↔
      HasValueFault room ps.get?) ∧
    (∀ qs : Assoc Chars Datum, ps.Perm qs →
      ofDatum room (.mapping (textKeyed qs)) = ofDatum room (.mapping (textKeyed ps))) ∧
    ∀ s : Settings, ofDatum room (.mapping (textKeyed s.entries)) = .ok s := by
  simp only [ofDatum_mapping]
  refine ⟨fun r => ofMapping_eq_iff h, ?_, fun qs hqs => ?_, fun s => ?_⟩
  · exact ((ofMapping_eq_iff h).1 rfl).exists_isOfValue_iff
  · have hget : qs.get? = ps.get? := funext fun k => (Assoc.get?_eq_of_perm hqs h k).symm
    have hq : qs.keys.Nodup := (hqs.map Prod.fst).nodup h
    rw [ofMapping_eq_iff hq, hget, ← ofMapping_eq_iff h]
  · have hkeys : s.entries.keys.Nodup := by
      change keys.Nodup
      decide
    exact (gives_entries s).ofMapping_eq hkeys

/-- A number of spaces and a level, read from entries in either order. -/
theorem ofDatum_textKeyed_level :
    let ps : Assoc Chars Datum :=
      [("indent", .scalar (.whole 2)), ("logging", .mapping [(.text "level", .text "debug")])]
    let s : Settings := { indent := [' ', ' '], logLevel := .text "DEBUG" }
    ps.keys.Nodup ∧ Gives 990 ps.get? (.ok s) ∧ ¬HasValueFault 990 ps.get? ∧
      ofDatum 990 (.mapping (textKeyed ps.reverse)) = .ok s := by
  intro ps s
  have hps : ps.keys.Nodup := by decide
  have hs : ofDatum 990 (.mapping (textKeyed ps)) = .ok s := rfl
  obtain ⟨hgives, hvalue, hperm, -⟩ := ofDatum_textKeyed 990 hps
  refine ⟨hps, (hgives _).1 hs, fun h => ?_, ?_⟩
  · obtain ⟨f, hf, -⟩ := hvalue.2 h
    cases hs.symm.trans hf
  · rw [hperm _ (List.reverse_perm ps).symm, hs]

/-! ## Entries of the right kinds that have a fault -/

/-- A list in a list, and so on, around nothing. -/
def lists : ℕ → Datum
  | 0 => .null
  | n + 1 => .list [lists n]

/-- There is room for lists in each other just if there are no more of them. -/
theorem fault?_lists (room n : ℕ) :
    (lists n).fault? room = if n ≤ room then none else some .nested := by
  induction n generalizing room with
  | zero =>
    rw [if_pos (Nat.zero_le _)]
    simp [lists, Datum.null, Datum.fault?, Scalar.fault?]
  | succ n ih =>
    cases room with
    | zero => simp [lists, Datum.fault?, Datum.listFault?]
    | succ room =>
      simp only [lists, Datum.fault?, Datum.listFault?, ih, Nat.add_le_add_iff_right]
      split <;> rfl

/-- The entries of a level in `logging`. -/
def levelEntry (d : Datum) : Assoc Chars Datum := [("logging", .mapping [(.text "level", d)])]

theorem namesLevel_levelEntry (d : Datum) : NamesLevel (levelEntry d).get? d := ⟨_, rfl, rfl⟩

theorem hasRightKinds_levelEntry (d : Datum) : HasRightKinds (levelEntry d).get? := by
  refine ⟨?_, ?_, not_isUnknown fun k hk => .inr (List.mem_singleton.1 hk)⟩
  · rintro ⟨d, ⟨⟩, -, h⟩
    exact h _ rfl
  · rintro ⟨d, ⟨⟩, -⟩

theorem ofDatum_levelEntry {d : Datum} {f : DescriptionFault} (h : d.fault? room = some f) :
    ofDatum room (.mapping (textKeyed (levelEntry d))) = .error (.description f) := by
  have hkeys : (levelEntry d).keys.Nodup := List.pairwise_singleton ..
  rw [ofDatum_mapping]
  exact (Gives.description (namesLevel_levelEntry d) h).ofMapping_eq hkeys

/-- **Entries of the right kinds can have a fault.**  A number may be no size of a text, and a
level may be too long or too deep to be described. -/
theorem ofDatum_limits :
    let far : Assoc Chars Datum := [("indent", .scalar (.whole (-10 ^ 22)))]
    let long := levelEntry (.scalar (.whole (10 ^ digitLimit)))
    let deep := levelEntry (lists 991)
    (HasRightKinds far.get? ∧ ofDatum 990 (.mapping (textKeyed far)) = .error .indentSize) ∧
      (HasRightKinds long.get? ∧
        ofDatum 990 (.mapping (textKeyed long)) = .error (.description .unwritable)) ∧
      (HasRightKinds deep.get? ∧
        ofDatum 990 (.mapping (textKeyed deep)) = .error (.description .nested)) ∧
      SettingsFault.isOfValue .indentSize = false ∧
      SettingsFault.isOfValue (.description .unwritable) = true ∧
      SettingsFault.isOfValue (.description .nested) = false := by
  intro far long deep
  have hfar : HasRightKinds far.get? := by
    refine ⟨not_hasNoSection_of_eq_none rfl, not_hasNoIndent_of_whole rfl,
      not_isUnknown fun k hk => .inl ?_⟩
    rw [List.mem_singleton.1 hk]
    exact List.mem_cons_self
  have hlong : (Datum.scalar (.whole (10 ^ digitLimit))).fault? 990 = some .unwritable := by
    simp [Datum.fault?, Scalar.fault?, isWritable, Int.natAbs_pow]
  have hdeep : (lists 991).fault? 990 = some .nested := by
    rw [fault?_lists, if_neg (by decide)]
  exact ⟨⟨hfar, rfl⟩, ⟨hasRightKinds_levelEntry _, ofDatum_levelEntry hlong⟩,
    ⟨hasRightKinds_levelEntry _, ofDatum_levelEntry hdeep⟩, rfl, rfl, rfl⟩

end TextKeys

end Settings
end DraftScript
