/-
# Commands read back from their sources

The source of a command is `TYPE(name=literal, …)`.  Read as a line it gives the command
again (`source_reads_back`), if nothing in it can be taken for something else:

- the type is a name in capital letters;
- the names of the parameters are trimmed and hold no character that the splitting of
  fields looks at;
- no literal holds an equals sign, a separating comma, or a `$` with a bound name;
- the quotes in a text are escaped, and its last character does not escape the one
  behind it.

A vector is left out, since the commas of its literal separate fields.  A zero loses its
sign, as in any literal.
-/

import DraftScript.Proofs.Field.Scan
import DraftScript.Proofs.Line.Outcome
import DraftScript.Proofs.Literal.ReadBack

namespace DraftScript

/-! ## What stands in a field -/

section NumeralText

variable {a b c : Chars}

theorem IsNumeralText.isFlat (h : IsNumeralText a) : Field.Scan.IsFlat a := by
  intro d hd
  have hn := h.chars d hd
  have hne : ∀ {e : Char}, isNumeralChar e = false → d ≠ e := ne_of_isNumeralChar hn
  refine ⟨hne rfl, ?_⟩
  rw [Field.Scan.weight, if_neg (not_or.2 ⟨hne rfl, hne rfl⟩),
    if_neg (not_or.2 ⟨hne rfl, hne rfl⟩)]

theorem isFlat_triple (ha : IsNumeralText a) (hb : IsNumeralText b) (hc : IsNumeralText c) :
    Field.Scan.IsFlat (Value.triple a b c) := by
  have hs : Field.Scan.IsFlat ", ".toList := by decide
  simp only [Value.triple, Field.Scan.IsFlat, List.forall_mem_append]
  exact ⟨⟨⟨⟨ha.isFlat, hs⟩, hb.isFlat⟩, hs⟩, hc.isFlat⟩

theorem not_mem_triple {d : Char} (hd : isNumeralChar d = false) (hs : d ∉ ", ".toList)
    (ha : IsNumeralText a) (hb : IsNumeralText b) (hc : IsNumeralText c) :
    d ∉ Value.triple a b c := by
  simp only [Value.triple, List.mem_append, ha.not_mem hd, hb.not_mem hd, hc.not_mem hd, hs,
    or_self, not_false_eq_true]

end NumeralText

namespace Value

variable {v : Value}

/-- Whether a value can stand in a field: it has a literal and is no vector, and a text
holds no equals sign, escapes its quotes and does not escape the one behind it. -/
def IsFieldValue : Value → Prop
  | text t => '=' ∉ t ∧ Field.Scan.IsEscaped t ∧ t.getLast? ≠ some '\\'
  | vector .. => False
  | v => v.HasLiteral

instance : DecidablePred IsFieldValue
  | text t => inferInstanceAs
      (Decidable ('=' ∉ t ∧ Field.Scan.IsEscaped t ∧ t.getLast? ≠ some '\\'))
  | vector .. => inferInstanceAs (Decidable False)
  | number x => inferInstanceAs (Decidable (number x).HasLiteral)
  | boolean b => inferInstanceAs (Decidable (boolean b).HasLiteral)
  | point x y z => inferInstanceAs (Decidable (point x y z).HasLiteral)
  | color r g b => inferInstanceAs (Decidable (color r g b).HasLiteral)

theorem IsFieldValue.hasLiteral (h : v.IsFieldValue) : v.HasLiteral := by
  cases v with
  | text t => trivial
  | vector x y z => exact h.elim
  | number x | boolean b | point x y z | color r g b => exact h

/-- **No comma of the literal separates,** and it leaves no quote or bracket open. -/
theorem IsFieldValue.closed_literal (h : v.IsFieldValue) : Field.Closed v.literal := by
  cases v with
  | number x =>
    have hn : IsNumeralText x.compact := isNumeralText_compact h
    exact .of_isFlat hn.isFlat (hn.not_mem rfl)
  | text t =>
    rw [literal_text]
    exact .of_quotes h.2.1 h.2.2
  | boolean b => cases b <;> exact .of_isFlat (by decide) (by decide)
  | point x y z =>
    obtain ⟨hx, hy, hz⟩ := h
    rw [literal_point]
    exact .of_brackets (.inl rfl) (.inl rfl) (isFlat_triple (isNumeralText_compact hx)
      (isNumeralText_compact hy) (isNumeralText_compact hz))
  | vector x y z => exact h.elim
  | color r g b =>
    rw [literal_color]
    exact .of_run_eq (by decide) (by decide) (.of_brackets (.inr rfl) (.inr rfl)
      (isFlat_triple (isNumeralText_ofInt r) (isNumeralText_ofInt g) (isNumeralText_ofInt b)))

theorem IsFieldValue.not_mem_literal (h : v.IsFieldValue) : '=' ∉ v.literal := by
  cases v with
  | number x => exact IsNumeralText.not_mem (isNumeralText_compact h) rfl
  | text t => simpa [literal_text] using h.1
  | boolean b => cases b <;> decide
  | point x y z =>
    obtain ⟨hx, hy, hz⟩ := h
    simpa [literal_point] using not_mem_triple (d := '=') rfl (by decide)
      (isNumeralText_compact hx) (isNumeralText_compact hy) (isNumeralText_compact hz)
  | vector x y z => exact h.elim
  | color r g b =>
    simpa [literal_color] using not_mem_triple (d := '=') rfl (by decide)
      (isNumeralText_ofInt r) (isNumeralText_ofInt g) (isNumeralText_ofInt b)

end Value

namespace Command

variable {v : Variables} {c : Command} {n : Chars} {p : Chars × Value}

/-- Whether a text can name a parameter in a source: it is not empty, trimmed, and free
of the characters that the splitting of fields looks at. -/
def IsFieldName (n : Chars) : Prop :=
  n ≠ [] ∧ Chars.trim n = n ∧ ∀ d ∈ n, d ∉ ['=', ',', '"', '[', ']', '(', ')']

instance (n : Chars) : Decidable (IsFieldName n) :=
  -- The general instance would go through all characters there are.
  letI := List.decidableBAll (fun d => d ∉ ['=', ',', '"', '[', ']', '(', ')']) n
  inferInstanceAs (Decidable (_ ∧ _ ∧ _))

/-- Whether a command has a source that can be read: its type is a name in capital
letters, and its parameters have different names, all of which, and all values, can stand
in a field. -/
structure HasSource (c : Command) : Prop where
  isName_type : isName c.type = true
  toUpper_type : c.type.map Char.toUpper = c.type
  nodup_keys : c.parameters.keys.Nodup
  isFieldName : ∀ p ∈ c.parameters, IsFieldName p.1
  isFieldValue : ∀ p ∈ c.parameters, p.2.IsFieldValue

/-- The command with every zero unsigned. -/
def unsignZeros (c : Command) : Command :=
  { c with parameters := c.parameters.map fun p => (p.1, p.2.unsignZeros) }

theorem keys_unsignZeros (c : Command) : c.unsignZeros.parameters.keys = c.parameters.keys := by
  simp [unsignZeros, Assoc.keys]

/-- Without the signs of its zeros a command is the same. -/
theorem same_unsignZeros (h : c.HasSource) : c.unsignZeros.same c = true := by
  have hs : subsumes c.unsignZeros.parameters c.parameters = true := by
    rw [subsumes, List.all_eq_true]
    intro p hp
    obtain ⟨q, hq, rfl⟩ := List.mem_map.1 hp
    rw [Assoc.get?_of_mem h.nodup_keys hq]
    exact Value.same_unsignZeros (h.isFieldValue q hq).hasLiteral
  rw [same, hs]
  simp [unsignZeros]

/-! ## The fields of a source -/

theorem IsFieldName.isFlat (h : IsFieldName n) : Field.Scan.IsFlat n := by
  intro d hd
  have := h.2.2 d hd
  simp only [List.mem_cons, List.not_mem_nil, or_false, not_or] at this
  simp [Field.Scan.weight, this]

theorem IsFieldName.not_mem (h : IsFieldName n) : '=' ∉ n ∧ ',' ∉ n :=
  ⟨fun hm => by simpa using h.2.2 '=' hm, fun hm => by simpa using h.2.2 ',' hm⟩

/-- A name and the equals sign behind it leave no trace in the scan. -/
theorem scan_name (h : IsFieldName n) :
    Field.Scan.unbroken {} (n ++ ['=']) = true ∧ Field.Scan.run {} (n ++ ['=']) = {} := by
  have hu : Field.Scan.unbroken {} n = true :=
    Field.Scan.unbroken_of_isFlat h.isFlat (.inl h.not_mem.2)
  obtain ⟨hd, hi⟩ := Field.Scan.run_of_isFlat (s := {}) h.isFlat
  refine ⟨?_, ?_⟩
  · rw [Field.Scan.unbroken_append, hu, Field.Scan.unbroken,
      Field.Scan.separates_of_ne (by decide)]
    rfl
  · rw [Field.Scan.run_append, Field.Scan.run_cons, Field.Scan.run_nil, Field.Scan.step, hd, hi,
      Field.Scan.isQuote_of_ne (by decide)]
    rfl

namespace IsFieldName

variable {x : Chars} (hn : IsFieldName n)
include hn

/-- A name and a closed text make a closed field. -/
theorem closed (hx : Field.Closed x) : Field.Closed (n ++ '=' :: x) := by
  obtain ⟨hu, hr⟩ := scan_name hn
  have hc := Field.Closed.of_run_eq hu hr hx
  rwa [List.append_assoc] at hc

theorem isAssignment (he : '=' ∉ x) (ht : Chars.trim x = x) :
    Field.IsAssignment (n ++ '=' :: x) n x :=
  ⟨n, x, rfl, hn.not_mem.1, he, hn.2.1, ht, hn.1⟩

theorem trim_eq (ht : Chars.trim x = x) : Chars.trim (n ++ '=' :: x) = n ++ '=' :: x :=
  Chars.trim_append_cons hn.1 hn.2.1 ht (by decide)

end IsFieldName

theorem fieldText_eq (p : Chars × Value) : fieldText p = p.1 ++ '=' :: p.2.literal := by
  simp [fieldText]

theorem closed_fieldText (hn : IsFieldName p.1) (hx : p.2.IsFieldValue) :
    Field.Closed (fieldText p) := by
  rw [fieldText_eq]
  exact hn.closed hx.closed_literal

theorem isAssignment_fieldText (hn : IsFieldName p.1) (hx : p.2.IsFieldValue) :
    Field.IsAssignment (fieldText p) p.1 p.2.literal := by
  rw [fieldText_eq]
  exact hn.isAssignment hx.not_mem_literal (Literal.trim_literal hx.hasLiteral)

theorem trim_fieldText (hn : IsFieldName p.1) (hx : p.2.IsFieldValue) :
    Chars.trim (fieldText p) = fieldText p := by
  rw [fieldText_eq]
  exact hn.trim_eq (Literal.trim_literal hx.hasLiteral)

/-- **A field of a source gives its parameter,** if no bound name stands in its literal. -/
theorem fieldReads_fieldText (hn : IsFieldName p.1) (hx : p.2.IsFieldValue)
    (hv : ∀ n, (v.get? n).isSome → ¬('$' :: n) <:+: p.2.literal) :
    Line.FieldReads v (fieldText p) (p.1, p.2.unsignZeros) := by
  refine ⟨p.2.literal, isAssignment_fieldText hn hx, ?_⟩
  rw [Variables.substitute_eq_expand, Variables.expand_eq_self hv]
  exact Literal.read_literal hx.hasLiteral

/-- What stands between the parentheses of a source. -/
def argumentText (c : Command) : Chars := ", ".toList.intercalate (c.parameters.map fieldText)

/-- **It is split into the fields that it was made of.** -/
theorem split_argumentText (h : c.HasSource) :
    Field.split c.argumentText = c.parameters.map fieldText := by
  refine Field.split_intercalate
    (List.forall_mem_map.2 fun p hp => closed_fieldText (h.isFieldName p hp) (h.isFieldValue p hp))
    (List.forall_mem_map.2 fun p hp => trim_fieldText (h.isFieldName p hp) (h.isFieldValue p hp))
    fun hl => ?_
  obtain ⟨p, -, hf⟩ := List.mem_map.1 (List.mem_of_getLast? hl)
  simp [fieldText_eq] at hf

/-! ## The source as a line -/

theorem source_eq (c : Command) : c.source = c.type ++ '(' :: (c.argumentText ++ [')']) := by
  simp [source, argumentText]

theorem trim_source (h : c.HasSource) : Chars.trim c.source = c.source := by
  rw [source_eq]
  exact LineForm.trim_invocation h.isName_type c.argumentText

theorem isInvocation_source (h : c.HasSource) :
    LineForm.IsInvocation c.source c.type c.argumentText :=
  ⟨h.isName_type, [], by simp, by simp [source_eq]⟩

/-- **The source of a command, read with its line number, gives the command,** with its
parameters in their order, only that a zero has lost its sign. -/
theorem source_reads_back (h : c.HasSource)
    (hv : ∀ p ∈ c.parameters, ∀ n, (v.get? n).isSome → ¬('$' :: n) <:+: p.2.literal) :
    (Line.read v c.source c.line).result = .ok (some c.unsignZeros) ∧
      c.unsignZeros.same c = true ∧ c.unsignZeros.parameters.keys = c.parameters.keys := by
  refine ⟨?_, same_unsignZeros h, keys_unsignZeros c⟩
  have hd : ∀ body, ¬LineForm.IsDeclaration (Chars.trim c.source) body := by
    rw [trim_source h, source_eq]
    exact LineForm.not_isDeclaration_of_isName h.isName_type
  have hi : LineForm.IsInvocation (Chars.trim c.source) c.type c.argumentText := by
    rw [trim_source h]
    exact isInvocation_source h
  have hf : List.Forall₂ (Line.FieldReads v) (Field.split c.argumentText)
      c.unsignZeros.parameters := by
    rw [split_argumentText h, unsignZeros, List.forall₂_map_left_iff, List.forall₂_map_right_iff,
      List.forall₂_same]
    exact fun p hp => fieldReads_fieldText (h.isFieldName p hp) (h.isFieldValue p hp) (hv p hp)
  have hk : Assoc.ofPairs c.unsignZeros.parameters = c.unsignZeros.parameters :=
    Assoc.ofPairs_eq_self (by rw [keys_unsignZeros]; exact h.nodup_keys)
  have he : c.unsignZeros =
      ⟨c.type.map Char.toUpper, Assoc.ofPairs c.unsignZeros.parameters, c.line⟩ := by
    rw [h.toUpper_type, hk]
    rfl
  rw [he]
  exact (Line.Gives.command hd hi hf).read_eq.1

/-- A command with a value of each kind that can stand in a field, and with a text that
holds a comma, an opened bracket, an escaped quote, a line feed and a `$`. -/
def crowded : Command where
  type := "BOX_2"
  parameters := [
    ("a note", .text "$side, [x\\\"\n "),
    ("origin", .point (.zero true) (.ofDecimal false 5 (-1)) (.ofDecimal true 1 22)),
    ("fill", .color (-1) 0 255),
    ("solid", .boolean true),
    ("n", .number (.ofInt 3))]
  line := 7

/-- It reads back where a name is bound that is not in it. -/
theorem crowded_reads_back :
    crowded.HasSource ∧
      (Line.read { bindings := [("sides", "6")] } crowded.source 7).result =
        .ok (some crowded.unsignZeros) ∧
      crowded.unsignZeros.same crowded = true := by
  have h : crowded.HasSource := by
    constructor <;> decide +kernel
  have hv : ∀ p ∈ crowded.parameters, ∀ n,
      (Variables.get? { bindings := [("sides", "6")] } n).isSome →
        ¬('$' :: n) <:+: p.2.literal := by
    intro p hp n hn
    obtain rfl : n = "sides".toList := by
      rw [Variables.get?, ← Assoc.has, Assoc.has_iff_mem_keys] at hn
      simpa [Assoc.keys] using hn
    revert p
    decide +kernel
  obtain ⟨hr, hs, -⟩ := source_reads_back h hv
  exact ⟨h, hr, hs⟩

end Command
end DraftScript
