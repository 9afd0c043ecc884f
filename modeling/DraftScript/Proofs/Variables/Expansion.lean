/-
# What a substitution gives

A table of variables means a map from names to texts.  `expand` says in terms of that
map alone what the text of a substitution is: from left to right, a `$` and the longest
bound name that follows it give way to the bound text, which is not read again, and
every other character stays.

The table finds a name by trying its names one after another, in an order that it keeps
between substitutions.  The longer names come first in that order, so the first name
that fits is the longest (`find?_order`), and what the table gives is what its
map gives (`substitute_eq_expand`): neither the order of the definitions nor the kept
order of the names is seen.
-/

import DraftScript.Variables
import Mathlib.Data.List.Infix

namespace DraftScript
namespace Variables

/-- The longest name bound in `m` that begins a text, with its text. -/
def longestBound (m : Chars → Option Chars) (t : Chars) : Option (Chars × Chars) :=
  t.inits.reverse.findSome? fun n => (m n).map (n, ·)

/-- The text in which names have the texts of `m`. -/
def expand (m : Chars → Option Chars) : Chars → Chars
  | [] => []
  | c :: r =>
    if c = '$' then
      match longestBound m r with
      | some (n, x) => x ++ expand m (r.drop n.length)
      | none => c :: expand m r
    else c :: expand m r
termination_by t => t.length
decreasing_by
  all_goals simp only [List.length_drop, List.length_cons]; omega

section Equations

variable {m : Chars → Option Chars} {c : Char} {r n x : Chars}

theorem expand_nil : expand m [] = [] := by rw [expand]

theorem expand_cons_of_ne (h : c ≠ '$') (r : Chars) : expand m (c :: r) = c :: expand m r := by
  rw [expand, if_neg h]

theorem expand_dollar_of_some (h : longestBound m r = some (n, x)) :
    expand m ('$' :: r) = x ++ expand m (r.drop n.length) := by
  rw [expand, if_pos rfl, h]

theorem expand_dollar_of_none (h : longestBound m r = none) :
    expand m ('$' :: r) = '$' :: expand m r := by
  rw [expand, if_pos rfl, h]

end Equations

/-! ## The longest bound name -/

section Longest

variable {m : Chars → Option Chars} {t n x : Chars}

/-- Of two beginnings of a text the longer comes first when they are read from the end. -/
theorem pairwise_reverse_inits (t : Chars) :
    t.inits.reverse.Pairwise fun a b => b.length < a.length := by
  rw [List.pairwise_reverse]
  induction t with
  | nil => simp
  | cons c r ih =>
    rw [List.inits_cons, List.pairwise_cons, List.pairwise_map]
    refine ⟨?_, ih.imp fun h => by simpa using h⟩
    intro a ha
    obtain ⟨b, _, rfl⟩ := List.mem_map.1 ha
    simp

/-- **What is found is the longest bound beginning.** -/
theorem longestBound_eq_some_iff :
    longestBound m t = some (n, x) ↔
      n <+: t ∧ m n = some x ∧ ∀ n', n' <+: t → (m n').isSome → n'.length ≤ n.length := by
  constructor
  · intro h
    obtain ⟨l₁, a, l₂, hl, ha, hn⟩ := List.findSome?_eq_some_iff.1 h
    obtain ⟨y, hy, he⟩ := Option.map_eq_some_iff.1 ha
    obtain ⟨rfl, rfl⟩ := Prod.mk.inj he
    have hp := pairwise_reverse_inits t
    rw [hl, List.pairwise_append, List.pairwise_cons] at hp
    have hmem : ∀ b, b <+: t ↔ b ∈ l₁ ++ a :: l₂ := fun b => by
      rw [← hl, List.mem_reverse, List.mem_inits]
    refine ⟨(hmem a).2 (by simp), hy, fun b hb hs => ?_⟩
    rcases List.mem_append.1 ((hmem b).1 hb) with hb | hb
    · have := hn b hb
      rw [Option.map_eq_none_iff] at this
      simp [this] at hs
    · rcases List.mem_cons.1 hb with rfl | hb
      · exact le_rfl
      · exact (hp.2.1.1 b hb).le
  · rintro ⟨hp, hm, hl⟩
    rw [longestBound, List.findSome?_eq_some_iff]
    obtain ⟨l₁, l₂, he⟩ := List.append_of_mem (List.mem_reverse.2 ((List.mem_inits n t).2 hp))
    refine ⟨l₁, n, l₂, he, by rw [hm]; rfl, fun b hb => ?_⟩
    have hlt : n.length < b.length := by
      have := pairwise_reverse_inits t
      rw [he, List.pairwise_append] at this
      exact this.2.2 b hb n (by simp)
    have hbt : b <+: t := by
      rw [← List.mem_inits, ← List.mem_reverse, he]
      exact List.mem_append_left _ hb
    cases hb' : m b with
    | none => rfl
    | some y => exact absurd (hl b hbt (by simp [hb'])) (by omega)

theorem longestBound_eq_none_iff :
    longestBound m t = none ↔ ∀ n, n <+: t → m n = none := by
  simp [longestBound, List.findSome?_eq_none_iff]

end Longest

/-! ## The order in which names are tried -/

/-- The names of a search order never get longer. -/
theorem pairwise_searchOrder (names : List Chars) :
    (searchOrder names).Pairwise fun a b => b.length ≤ a.length := by
  refine (List.pairwise_mergeSort ?_ ?_ names).imp ?_
  · intro a b c hab hbc
    simp only [Bool.or_eq_true, Bool.and_eq_true, decide_eq_true_eq, beq_iff_eq,
      Bool.not_eq_true', decide_eq_false_iff_not, List.not_lt] at hab hbc ⊢
    rcases hab with h | ⟨h, hab⟩ <;> rcases hbc with h' | ⟨h', hbc⟩
    · left; omega
    · left; omega
    · left; omega
    · exact Or.inr ⟨h.trans h', List.le_trans hab hbc⟩
  · intro a b
    simp only [Bool.or_eq_true, Bool.and_eq_true, decide_eq_true_eq, beq_iff_eq,
      Bool.not_eq_true', decide_eq_false_iff_not, List.not_lt]
    rcases Nat.lt_trichotomy a.length b.length with h | h | h
    · exact Or.inr (Or.inl h)
    · rcases List.le_total a b with hab | hab
      · exact Or.inl (Or.inr ⟨h, hab⟩)
      · exact Or.inr (Or.inr ⟨h.symm, hab⟩)
    · exact Or.inl (Or.inl h)
  · intro a b h
    simp only [Bool.or_eq_true, Bool.and_eq_true, decide_eq_true_eq, beq_iff_eq] at h
    omega

theorem mem_order {v : Variables} {n : Chars} : n ∈ v.order ↔ (v.get? n).isSome := by
  rw [order_eq_searchOrder, searchOrder, List.mem_mergeSort]
  exact Assoc.has_iff_mem_keys.symm

/-- **The first name that fits is the longest one.** -/
theorem find?_order (v : Variables) (t : Chars) :
    v.order.find? (·.isPrefixOf t) = (longestBound v.get? t).map Prod.fst := by
  cases h : v.order.find? (·.isPrefixOf t) with
  | none =>
    have hn : longestBound v.get? t = none := by
      rw [longestBound_eq_none_iff]
      intro n hn
      cases hb : v.get? n with
      | none => rfl
      | some x =>
        have := List.find?_eq_none.1 h n (mem_order.2 (by simp [hb]))
        exact absurd (List.isPrefixOf_iff_prefix.2 hn) this
    rw [hn]
    rfl
  | some n =>
    obtain ⟨hp, l₁, l₂, hl, hno⟩ := List.find?_eq_some_iff_append.1 h
    obtain ⟨x, hx⟩ := Option.isSome_iff_exists.1 (mem_order.1 (List.mem_of_find?_eq_some h))
    have hs : longestBound v.get? t = some (n, x) := by
      refine longestBound_eq_some_iff.2 ⟨List.isPrefixOf_iff_prefix.1 hp, hx, fun b hb hs => ?_⟩
      have hord := pairwise_searchOrder v.bindings.keys
      rw [← order_eq_searchOrder, hl, List.pairwise_append, List.pairwise_cons] at hord
      have hm := mem_order.2 hs
      rw [hl] at hm
      rcases List.mem_append.1 hm with hm | hm
      · simpa [List.isPrefixOf_iff_prefix.2 hb] using hno b hm
      · rcases List.mem_cons.1 hm with rfl | hm
        · exact le_rfl
        · exact hord.2.1.1 b hm
    rw [hs]
    rfl

/-! ## The text of a substitution -/

/-- A text in which no bound name stands behind a `$` is expanded to itself. -/
theorem expand_eq_self {m : Chars → Option Chars} {t : Chars}
    (h : ∀ n, (m n).isSome → ¬('$' :: n) <:+: t) : expand m t = t := by
  induction t with
  | nil => rw [expand]
  | cons c r ih =>
    have hr : expand m r = r := ih fun n hn hi => h n hn (List.infix_cons hi)
    rw [expand, hr]
    split
    · next hc =>
      subst hc
      have hl : longestBound m r = none := by
        refine longestBound_eq_none_iff.2 fun n hp => ?_
        rw [← Option.not_isSome_iff_eq_none]
        exact fun hn => h n hn (List.cons_prefix_cons.2 ⟨rfl, hp⟩).isInfix
      rw [hl]
    · rfl

/-- What stands in front of the first `$` stays. -/
theorem expand_append_of_not_mem {m : Chars → Option Chars} {a : Chars} (h : '$' ∉ a)
    (b : Chars) : expand m (a ++ b) = a ++ expand m b := by
  induction a with
  | nil => rfl
  | cons c r ih =>
    rw [List.mem_cons, not_or] at h
    rw [List.cons_append, expand_cons_of_ne (Ne.symm h.1), ih h.2, List.cons_append]

theorem expand_of_not_mem {m : Chars → Option Chars} {t : Chars} (h : '$' ∉ t) :
    expand m t = t := by
  have ht := expand_append_of_not_mem (m := m) h []
  rwa [expand_nil, List.append_nil] at ht

theorem replaceNames_eq_expand (v : Variables) (t : Chars) :
    replaceNames v.order v.textOf t = expand v.get? t := by
  induction t using expand.induct v.get? with
  | case1 => rw [replaceNames, expand_nil]
  | case2 r n x hb ih =>
    have hf : v.order.find? (·.isPrefixOf r) = some n := by rw [find?_order, hb]; rfl
    have hx : v.get? n = some x := (longestBound_eq_some_iff.1 hb).2.1
    rw [replaceNames, if_pos rfl, expand_dollar_of_some hb]
    split
    · next n' h' =>
      obtain rfl := Option.some.inj (h'.symm.trans hf)
      simp only [textOf, hx, Option.get_some, ih]
    · next h' => simp [hf] at h'
  | case3 r hb ih =>
    have hf : v.order.find? (·.isPrefixOf r) = none := by rw [find?_order, hb]; rfl
    rw [replaceNames, if_pos rfl, expand_dollar_of_none hb]
    split
    · next n' h' => simp [hf] at h'
    · rw [ih]
  | case4 c r hc ih => rw [replaceNames, if_neg hc, expand_cons_of_ne hc, ih]

/-- **A substitution depends on the map alone.** -/
theorem substitute_eq_expand (v : Variables) (t : Chars) :
    v.substitute t = expand v.get? t := by
  unfold substitute
  split
  · exact replaceNames_eq_expand v t
  · next h =>
    simp only [searches, Bool.and_eq_true, Bool.not_eq_true', List.contains_iff_mem,
      not_and_or, Bool.not_eq_false, List.isEmpty_iff] at h
    refine (expand_eq_self fun n hn hi => ?_).symm
    rcases h with h | h
    · simp [get?, h, Assoc.get?] at hn
    · exact h (hi.subset (by simp))

/-- A bound name alone gives way to its text: no longer name fits. -/
theorem substitute_name {v : Variables} {n x : Chars} (h : v.get? n = some x) :
    v.substitute ('$' :: n) = x := by
  have hl : longestBound v.get? n = some (n, x) :=
    longestBound_eq_some_iff.2 ⟨List.prefix_rfl, h, fun n' hp _ => hp.length_le⟩
  rw [substitute_eq_expand, expand_dollar_of_some hl, List.drop_length, expand_nil,
    List.append_nil]

/-- A text without a `$` stays as it is. -/
theorem substitute_text {v : Variables} {x : Chars} (h : '$' ∉ x) : v.substitute x = x := by
  rw [substitute_eq_expand, expand_of_not_mem h]

end Variables
end DraftScript
