/-
# What is registered, and in which groups

A registry is what a sequence of registrations leaves.  A type is listed where it was first
registered and has the schema of its last registration (`names_ofList`,
`get?_ofList_eq_some_iff`), so a new schema can move a type to another category while it keeps
its place:

    register A in x, B in y, C in x, A in y        types A, B, C        y: A, B   x: C

The groups are made from the schemas in the order of the types: each goes to the end of the
group of its category, and a category without a group gets one at the end
(`getD_foldl_addTo`, `keys_foldl_addTo`).  As every schema stands under its own type, and each
type once (`IsKeyed`), they divide up the types (`isGrouping_categories`).
-/

import DraftScript.Registry
import Mathlib.Data.List.Nodup
import Mathlib.Data.List.Perm.Basic

namespace DraftScript
namespace Registry

variable {r : Registry} {ss : List Schema} {s : Schema} {t c : Chars}

/-! ## Types and their schemas -/

theorem schemas_foldl_register (ss : List Schema) (r : Registry) :
    (ss.foldl register r).schemas =
      (ss.map fun s => (s.type, s)).foldl (fun a p => Assoc.put a p.1 p.2) r.schemas := by
  induction ss generalizing r with
  | nil => rfl
  | cons s ss ih => exact ih (r.register s)

theorem schemas_ofList (ss : List Schema) :
    (ofList ss).schemas = Assoc.ofPairs (ss.map fun s => (s.type, s)) :=
  schemas_foldl_register ss {}

/-- **Types are listed in the order in which they were first registered.** -/
theorem names_ofList (ss : List Schema) : (ofList ss).names = (ss.map Schema.type).eraseDups := by
  rw [names, schemas_ofList, Assoc.keys_ofPairs, Assoc.keys, List.map_map]
  rfl

/-- The schema of a type is the last one of that type. -/
theorem get?_ofList (ss : List Schema) (type : Chars) :
    (ofList ss).get? type = ss.reverse.find? fun s => s.type = type := by
  rw [get?, schemas_ofList, Assoc.get?_ofPairs, ← List.map_reverse, List.find?_map, Option.map_map]
  exact congrFun Option.map_id _

/-- **A type has the schema of its last registration.** -/
theorem get?_ofList_eq_some_iff : (ofList ss).get? t = some s ↔
    ∃ before after, ss = before ++ s :: after ∧ s.type = t ∧ ∀ s' ∈ after, s'.type ≠ t := by
  rw [get?_ofList, List.find?_eq_some_iff_append]
  simp only [decide_eq_true_eq, Bool.not_eq_true', decide_eq_false_iff_not]
  constructor
  · rintro ⟨ht, as, bs, hs, has⟩
    refine ⟨bs.reverse, as.reverse, ?_, ht, fun s' hs' => has s' (List.mem_reverse.1 hs')⟩
    rw [← List.reverse_reverse ss, hs]
    simp
  · rintro ⟨before, after, rfl, ht, hafter⟩
    refine ⟨ht, after.reverse, before.reverse, by simp, fun s' hs' => ?_⟩
    exact hafter s' (List.mem_reverse.1 hs')

/-- Whether each schema stands under its own type, and each type once. -/
structure IsKeyed (r : Registry) : Prop where
  nodup : r.names.Nodup
  type_eq : ∀ p ∈ r.schemas, p.2.type = p.1

theorem IsKeyed.register (h : r.IsKeyed) (s : Schema) : (r.register s).IsKeyed where
  nodup := Assoc.nodup_keys_put h.nodup s.type s
  type_eq := Assoc.forall_mem_put rfl h.type_eq

theorem isKeyed_ofList (ss : List Schema) : (ofList ss).IsKeyed := by
  have hrun : ∀ r : Registry, r.IsKeyed → (ss.foldl Registry.register r).IsKeyed := by
    induction ss with
    | nil => exact fun r h => h
    | cons s ss ih => exact fun r h => ih _ (h.register s)
  exact hrun {} { nodup := List.nodup_nil, type_eq := fun _ hp => nomatch hp }

/-- The category of a registered type. -/
def category? (r : Registry) (t : Chars) : Option Chars := (r.get? t).map (·.category)

theorem IsKeyed.category?_eq (h : r.IsKeyed) {p : Chars × Schema} (hp : p ∈ r.schemas) :
    r.category? p.1 = some p.2.category := by
  rw [category?, get?, Assoc.get?_of_mem h.nodup hp]
  rfl

theorem mem_names_iff : t ∈ r.names ↔ ∃ c, r.category? t = some c := by
  rw [names, ← Assoc.has_iff_mem_keys, Assoc.has, Option.isSome_iff_exists]
  simp [category?, get?]

/-! ## Adding types to groups -/

section Adding

variable (ps : List (Chars × Chars)) (groups : Assoc Chars (List Chars))

/-- **A group has its types in the order in which they were added.** -/
theorem getD_foldl_addTo (c : Chars) :
    ((ps.foldl (fun g p => addTo g p.1 p.2) groups).get? c).getD [] =
      (groups.get? c).getD [] ++ (ps.filter fun p => p.1 = c).map Prod.snd := by
  induction ps generalizing groups with
  | nil => simp
  | cons p ps ih =>
    rw [List.foldl_cons, ih, addTo, Assoc.get?_put]
    by_cases hc : p.1 = c <;> simp [hc]

/-- **Groups stand in the order of their first types.** -/
theorem keys_foldl_addTo : (ps.foldl (fun g p => addTo g p.1 p.2) groups).keys =
    groups.keys ++ ((ps.map Prod.fst).filter (· ∉ groups.keys)).eraseDups :=
  Assoc.keys_foldl_put (fun g p => (g.get? p.1).getD [] ++ [p.2]) groups ps

end Adding

/-! ## The groups of a registry -/

/-- Whether groups divide up the types of a registry by category.  A type stands in one group
once, a group holds the types of its category in the order in which they are listed, and the
groups stand in the order of the first types of their categories. -/
structure IsGrouping (r : Registry) (groups : Assoc Chars (List Chars)) : Prop where
  perm : (groups.flatMap Prod.snd).Perm r.names
  types_eq : ∀ g ∈ groups, g.2 = r.names.filter fun t => r.category? t = some g.1
  types_ne_nil : ∀ g ∈ groups, g.2 ≠ []
  keys_eq : groups.keys = (r.names.filterMap r.category?).eraseDups

/-- The groups, with the categories and types as they stand in the schemas. -/
theorem categories_eq (r : Registry) : r.categories =
    (r.schemas.map fun p => (p.2.category, p.2.type)).foldl (fun g p => addTo g p.1 p.2) [] := by
  rw [List.foldl_map, categories]

theorem IsKeyed.keys_categories (h : r.IsKeyed) :
    r.categories.keys = (r.names.filterMap r.category?).eraseDups := by
  have hc : r.names.filterMap r.category? = r.schemas.map fun p => p.2.category := by
    rw [names, Assoc.keys, List.filterMap_map]
    exact List.filterMap_eq_map_iff_forall_eq_some.2 fun p hp => h.category?_eq hp
  rw [categories_eq, keys_foldl_addTo, hc, List.map_map]
  simp [Assoc.keys, Function.comp_def]

theorem IsKeyed.getD_categories (h : r.IsKeyed) (c : Chars) :
    (r.categories.get? c).getD [] = r.names.filter fun t => r.category? t = some c := by
  have hc : r.schemas.filter (fun p => p.2.category = c) =
      r.schemas.filter fun p => r.category? p.1 = some c :=
    List.filter_congr fun p hp => by simp [h.category?_eq hp]
  have ht : (r.schemas.filter fun p => p.2.category = c).map (·.2.type) =
      (r.schemas.filter fun p => p.2.category = c).map Prod.fst :=
    List.map_congr_left fun p hp => h.type_eq p (List.mem_of_mem_filter hp)
  rw [categories_eq, getD_foldl_addTo, List.filter_map, List.map_map, names, Assoc.keys,
    List.filter_map]
  simp only [Assoc.get?, Option.getD_none, List.nil_append, Function.comp_def, ← hc, ← ht]

theorem nodup_keys_categories (r : Registry) : r.categories.keys.Nodup := by
  have hrun : ∀ groups : Assoc Chars (List Chars), groups.keys.Nodup →
      (r.schemas.foldl (fun g p => addTo g p.2.category p.2.type) groups).keys.Nodup := by
    induction r.schemas with
    | nil => exact fun groups h => h
    | cons p ps ih => exact fun groups h => ih _ (Assoc.nodup_keys_put h ..)
  exact hrun [] List.nodup_nil

theorem IsKeyed.types_eq (h : r.IsKeyed) {g : Chars × List Chars} (hg : g ∈ r.categories) :
    g.2 = r.names.filter fun t => r.category? t = some g.1 := by
  rw [← h.getD_categories, Assoc.get?_of_mem (nodup_keys_categories r) hg, Option.getD_some]

theorem IsKeyed.mem_types_iff (h : r.IsKeyed) {g : Chars × List Chars} (hg : g ∈ r.categories) :
    t ∈ g.2 ↔ r.category? t = some g.1 := by
  rw [h.types_eq hg, List.mem_filter, decide_eq_true_eq, and_iff_right_iff_imp]
  exact fun ht => mem_names_iff.2 ⟨_, ht⟩

theorem IsKeyed.mem_keys_categories_iff (h : r.IsKeyed) :
    c ∈ r.categories.keys ↔ ∃ t, r.category? t = some c := by
  rw [h.keys_categories, List.mem_eraseDups, List.mem_filterMap]
  exact exists_congr fun t => and_iff_right_of_imp fun ht => mem_names_iff.2 ⟨_, ht⟩

/-- **Every type stands in one group once.** -/
theorem IsKeyed.perm_categories (h : r.IsKeyed) :
    (r.categories.flatMap Prod.snd).Perm r.names := by
  have hdisjoint : r.categories.Pairwise (Function.onFun List.Disjoint Prod.snd) := by
    have hkeys : r.categories.Pairwise fun g g' => g.1 ≠ g'.1 :=
      List.pairwise_map.1 (nodup_keys_categories r)
    refine hkeys.imp_of_mem fun hg hg' hne t ht ht' => hne ?_
    rw [h.mem_types_iff hg] at ht
    rw [h.mem_types_iff hg', ht] at ht'
    exact Option.some.inj ht'
  have hnodup : (r.categories.flatMap Prod.snd).Nodup := by
    refine List.nodup_flatMap.2 ⟨fun g hg => ?_, hdisjoint⟩
    rw [h.types_eq hg]
    exact h.nodup.filter _
  refine (List.perm_ext_iff_of_nodup hnodup h.nodup).2 fun t => ?_
  rw [List.mem_flatMap, mem_names_iff]
  constructor
  · rintro ⟨g, hg, ht⟩
    exact ⟨g.1, (h.mem_types_iff hg).1 ht⟩
  · rintro ⟨c, hc⟩
    obtain ⟨g, hg, rfl⟩ := List.mem_map.1 (h.mem_keys_categories_iff.2 ⟨t, hc⟩)
    exact ⟨g, hg, (h.mem_types_iff hg).2 hc⟩

theorem IsKeyed.isGrouping_categories (h : r.IsKeyed) : r.IsGrouping r.categories where
  perm := h.perm_categories
  types_eq := fun _ hg => h.types_eq hg
  types_ne_nil := by
    intro g hg
    obtain ⟨t, ht⟩ := h.mem_keys_categories_iff.1 (List.mem_map.2 ⟨g, hg, rfl⟩)
    exact List.ne_nil_of_mem ((h.mem_types_iff hg).2 ht)
  keys_eq := h.keys_categories

/-- **What a registry holds after any registrations.**  It lists each type once, where it was
first registered, and has the schema of its last registration; and the types are divided up by
the categories of these schemas. -/
theorem ofList_registered (ss : List Schema) :
    (ofList ss).names = (ss.map Schema.type).eraseDups ∧ (ofList ss).names.Nodup ∧
      (∀ t s, (ofList ss).get? t = some s ↔ ∃ before after, ss = before ++ s :: after ∧
        s.type = t ∧ ∀ s' ∈ after, s'.type ≠ t) ∧
      (ofList ss).IsGrouping (ofList ss).categories :=
  have h := isKeyed_ofList ss
  ⟨names_ofList ss, h.nodup, fun _ _ => get?_ofList_eq_some_iff, h.isGrouping_categories⟩

end Registry
end DraftScript
