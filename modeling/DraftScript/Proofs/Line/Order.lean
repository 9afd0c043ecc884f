/-
# The order of fields

Closed fields that give different names are `Independent` and may stand in any order.  An argument
list is split into them wherever they stand, and each is read for itself, so the same parameters
come of it or none.  Parameters with different names keep the places of their fields, and those
are all that a reader of the command could tell the order by (`Reordered`).

| what is asked of the two commands | answer |
| --- | --- |
| type and line | equal |
| the value of a name | equal (`Reordered.get?_eq`) |
| whether they are the same command | yes (`Reordered.same`) |
| the list of parameters | a permutation |

A command is the same as itself only if no value of it is `nan`; nothing that is read from
a script is (`Literal.same_self_of_read`).
-/

import DraftScript.Proofs.Field.Scan
import DraftScript.Proofs.Line.Outcome
import DraftScript.Proofs.Literal.Equality
import Mathlib.Data.List.Perm.Basic

namespace DraftScript

/-! ## Commands with reordered parameters -/

namespace Command

/-- Whether two commands differ at most in the order of their parameters. -/
structure Reordered (c d : Command) : Prop where
  type : c.type = d.type
  line : c.line = d.line
  parameters : c.parameters.Perm d.parameters
  nodup : c.parameters.keys.Nodup

namespace Reordered

variable {c d : Command}

/-- The order of the parameters is not seen in their values. -/
theorem get?_eq (h : Reordered c d) (name : Chars) : c.get? name = d.get? name :=
  Assoc.get?_eq_of_perm h.parameters h.nodup name

/-- **Commands with reordered parameters are the same,** as long as their values equal
themselves. -/
theorem same (h : Reordered c d) (hx : ∀ p ∈ c.parameters, p.2.same p.2 = true) :
    c.same d = true := by
  have hs : subsumes c.parameters d.parameters = true := by
    rw [subsumes, List.all_eq_true]
    intro p hp
    have hd : d.parameters.get? p.1 = some p.2 := by
      rw [← Command.get?, ← h.get?_eq]
      exact Assoc.get?_of_mem h.nodup hp
    rw [hd]
    exact hx p hp
  simp [Command.same, h.type, h.line, h.parameters.length_eq, hs]

end Reordered

end Command

/-! ## Fields with different names -/

namespace Field

variable {f name value : Chars} {fs : List Chars}

/-- Blanks around a field belong to neither its name nor its value. -/
theorem IsAssignment.of_trim (h : IsAssignment (Chars.trim f) name value) :
    IsAssignment f name value := by
  obtain ⟨a, b, ht, ha, hb, rfl, rfl, hne⟩ := h
  obtain ⟨l, r, hf, hl, hr⟩ := Chars.exists_eq_append_trim_append f
  have hnot : ∀ t : Chars, (∀ c ∈ t, Chars.isBlank c = true) → '=' ∉ t :=
    fun t h hm => absurd (h _ hm) (by decide)
  refine ⟨l ++ a, b ++ r, ?_, by simp [ha, hnot l hl], by simp [hb, hnot r hr], ?_, ?_, hne⟩
  · rw [hf, ht]
    simp
  · simpa using Chars.trim_append_of_blank (t := a) hl (b := []) (by simp)
  · exact Chars.trim_append_of_blank (a := []) (by simp) hr

/-- Whether no two of the fields give the same name. -/
def DifferInName (fs : List Chars) : Prop :=
  fs.Pairwise fun f g => ∀ name x y, IsAssignment f name x → ¬IsAssignment g name y

/-- The name that a field gives, if it is an assignment. -/
def name? (f : Chars) : Option Chars := (assignment f).toOption.map Prod.fst

theorem name?_eq_some_iff : name? f = some name ↔ ∃ x, IsAssignment f name x := by
  rw [name?]
  constructor
  · intro h
    obtain ⟨p, hp, rfl⟩ := Option.map_eq_some_iff.1 h
    cases ha : assignment f with
    | error e => simp [ha, Except.toOption] at hp
    | ok q =>
      obtain rfl : q = p := by simpa [ha, Except.toOption] using hp
      exact ⟨q.2, assignment_eq_ok_iff.1 ha⟩
  · rintro ⟨x, hx⟩
    rw [assignment_eq_ok_iff.2 hx]
    rfl

/-- Fields differ in name when none of their names comes twice. -/
theorem differInName_iff : DifferInName fs ↔ (fs.filterMap name?).Nodup := by
  rw [List.Nodup, List.pairwise_filterMap, DifferInName]
  refine List.Pairwise.iff fun f g => ?_
  simp only [name?_eq_some_iff]
  constructor
  · rintro h n ⟨x, hx⟩ m ⟨y, hy⟩ rfl
    exact h n x y hx hy
  · intro h n x y hx hy
    exact h n ⟨x, hx⟩ n ⟨y, hy⟩ rfl

instance (fs : List Chars) : Decidable (DifferInName fs) :=
  decidable_of_iff _ differInName_iff.symm

/-- Whether fields stand for themselves wherever they stand: each is closed and not blank, and
no two give the same name. -/
structure Independent (fs : List Chars) : Prop where
  closed : ∀ f ∈ fs, Closed f
  notBlank : ∀ f ∈ fs, Chars.trim f ≠ []
  differInName : DifferInName fs

instance (fs : List Chars) : Decidable (Independent fs) :=
  decidable_of_iff (_ ∧ _ ∧ _)
    ⟨fun h => ⟨h.1, h.2.1, h.2.2⟩, fun h => ⟨h.closed, h.notBlank, h.differInName⟩⟩

theorem Independent.perm {gs : List Chars} (h : Independent fs) (hp : fs.Perm gs) :
    Independent gs where
  closed g hg := h.closed g (hp.mem_iff.2 hg)
  notBlank g hg := h.notBlank g (hp.mem_iff.2 hg)
  differInName :=
    differInName_iff.2 ((hp.filterMap name?).nodup (differInName_iff.1 h.differInName))

end Field

namespace Line

variable {v : Variables} {name blanks f : Chars} {fs gs : List Chars} {p : Chars × Value}
  {rs : List (Chars × Value)} {line : ℤ} {c : Command}

theorem FieldReads.of_trim (h : FieldReads v (Chars.trim f) p) : FieldReads v f p := by
  obtain ⟨raw, ha, hr⟩ := h
  exact ⟨raw, ha.of_trim, hr⟩

/-- A parameter is given by a field. -/
theorem exists_fieldReads_of_mem (h : List.Forall₂ (FieldReads v) fs rs) (hp : p ∈ rs) :
    ∃ f ∈ fs, FieldReads v f p := by
  induction h with
  | nil => simp at hp
  | cons hf _ ih =>
    rcases List.mem_cons.1 hp with rfl | hp
    · exact ⟨_, List.mem_cons_self, hf⟩
    · obtain ⟨g, hg, hr⟩ := ih hp
      exact ⟨g, List.mem_cons_of_mem _ hg, hr⟩

/-- Fields that differ in name give each parameter a name of its own. -/
theorem nodup_keys_of_fieldReads (h : List.Forall₂ (FieldReads v) fs rs)
    (hd : Field.DifferInName fs) : (Assoc.keys rs).Nodup := by
  induction h with
  | nil => exact List.nodup_nil
  | @cons f p fs rs hf hs ih =>
    obtain ⟨hne, hd⟩ := List.pairwise_cons.1 hd
    refine List.nodup_cons.2 ⟨fun hm => ?_, ih hd⟩
    obtain ⟨q, hq, hqp⟩ := List.mem_map.1 hm
    obtain ⟨g, hg, y, hy, -⟩ := exists_fieldReads_of_mem hs hq
    obtain ⟨x, hx, -⟩ := hf
    exact hne g hg p.1 x y hx (hqp ▸ hy)

/-- The values that fields give equal themselves. -/
theorem same_self_of_fieldReads (h : List.Forall₂ (FieldReads v) fs rs) :
    ∀ p ∈ rs, p.2.same p.2 = true := by
  intro p hp
  obtain ⟨f, -, raw, -, hr⟩ := exists_fieldReads_of_mem h hp
  exact Literal.same_self_of_read hr

/-! ## Lines with reordered fields -/

/-- The line that invokes a name with fields, some blanks behind each comma. -/
def invocationText (name blanks : Chars) (fs : List Chars) : Chars :=
  name ++ '(' :: ((',' :: blanks).intercalate fs ++ [')'])

/-- The line of an invocation gives the command of its fields, or is refused. -/
theorem result_read_invocationText (hn : isName name = true) :
    (read v (invocationText name blanks fs) line).result =
      ((readArguments v ((',' :: blanks).intercalate fs)).result.map fun ps =>
        some { type := name.map Char.toUpper, parameters := ps, line }) :=
  result_read_invocation hn _

section Independent

variable (hn : isName name = true) (hb : ∀ c ∈ blanks, Chars.isBlank c = true)
  (h : Field.Independent fs)
include hb h

/-- The fields of an argument list are those that it is made of. -/
theorem split_blanks : Field.split ((',' :: blanks).intercalate fs) = fs.map Chars.trim := by
  refine Field.split_intercalate_trim hb h.closed fun hl => ?_
  obtain ⟨f, hf, ht⟩ := List.mem_map.1 (List.mem_of_getLast? hl)
  exact h.notBlank f hf ht

include hn

/-- A line that invokes a name with independent fields gives a command when each of them gives
a parameter. -/
theorem read_invocationText_eq_ok_iff {r : Option Command} :
    (read v (invocationText name blanks fs) line).result = .ok r ↔
      ∃ rs, List.Forall₂ (FieldReads v) (fs.map Chars.trim) rs ∧
        r = some ⟨name.map Char.toUpper, Assoc.ofPairs rs, line⟩ := by
  rw [result_read_invocationText hn, ← split_blanks hb h]
  constructor
  · intro h
    cases hr : (readArguments v ((',' :: blanks).intercalate fs)).result with
    | error e => simp [hr, Except.map] at h
    | ok ps =>
      rw [hr, Except.map, Except.ok.injEq] at h
      obtain ⟨rs, hf, rfl⟩ := result_readArguments_eq_ok_iff.1 hr
      exact ⟨rs, hf, h.symm⟩
  · rintro ⟨rs, hf, rfl⟩
    rw [result_readArguments_eq_ok_iff.2 ⟨rs, hf, rfl⟩]
    rfl

/-- **Reordered fields give the command with reordered parameters.** -/
theorem exists_reordered (hp : fs.Perm gs) {r : Option Command}
    (hr : (read v (invocationText name blanks fs) line).result = .ok r) :
    ∃ c d, r = some c ∧ (read v (invocationText name blanks gs) line).result = .ok (some d) ∧
      c.Reordered d ∧ c.same d = true := by
  obtain ⟨rs, hf, rfl⟩ := (read_invocationText_eq_ok_iff hn hb h).1 hr
  obtain ⟨ss, hg, hperm⟩ := List.perm_comp_forall₂ (hp.map Chars.trim).symm hf
  have hfs : List.Forall₂ (FieldReads v) fs rs :=
    (List.forall₂_map_left_iff.1 hf).imp fun _ _ => FieldReads.of_trim
  have hrs : (Assoc.keys rs).Nodup := nodup_keys_of_fieldReads hfs h.differInName
  have hss : (Assoc.keys ss).Nodup := (hperm.symm.map Prod.fst).nodup hrs
  have hre : Command.Reordered ⟨name.map Char.toUpper, Assoc.ofPairs rs, line⟩
      ⟨name.map Char.toUpper, Assoc.ofPairs ss, line⟩ := by
    rw [Assoc.ofPairs_eq_self hrs, Assoc.ofPairs_eq_self hss]
    exact ⟨rfl, rfl, hperm.symm, hrs⟩
  refine ⟨_, _, rfl, ?_, hre, hre.same ?_⟩
  · exact (read_invocationText_eq_ok_iff hn hb (h.perm hp)).2 ⟨ss, hg, rfl⟩
  · rw [Assoc.ofPairs_eq_self hrs]
    exact same_self_of_fieldReads hf

end Independent

end Line
end DraftScript
