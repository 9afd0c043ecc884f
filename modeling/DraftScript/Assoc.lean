/-
# Insertion-ordered maps

An association list whose order is the order in which the keys first came: `put` on a
key that is there changes its value in place, and a new key goes to the end.
-/

namespace DraftScript

/-- Keys with values, in the order in which the keys first came. -/
abbrev Assoc (κ ν : Type) := List (κ × ν)

namespace Assoc

variable {κ ν : Type} [DecidableEq κ]

/-- The value of a key. -/
def get? : Assoc κ ν → κ → Option ν
  | [], _ => none
  | (k, v) :: r, x => if k = x then some v else get? r x

/-- Gives a key a value, in its old place if it has one. -/
def put : Assoc κ ν → κ → ν → Assoc κ ν
  | [], x, w => [(x, w)]
  | (k, v) :: r, x, w => if k = x then (x, w) :: r else (k, v) :: put r x w

/-- The keys, in order. -/
def keys (a : Assoc κ ν) : List κ := a.map Prod.fst

/-- Whether a key has a value. -/
def has (a : Assoc κ ν) (x : κ) : Bool := (a.get? x).isSome

/-- The map in which each key has the first place and the last value of its pairs. -/
def ofPairs (ps : List (κ × ν)) : Assoc κ ν := ps.foldl (fun a p => a.put p.1 p.2) []

/-- The keys are what has a value. -/
theorem has_iff_mem_keys {a : Assoc κ ν} {x : κ} : a.has x ↔ x ∈ a.keys := by
  induction a with
  | nil => simp [has, get?, keys]
  | cons p r ih =>
    by_cases h : p.1 = x
    · simp [has, get?, keys, h]
    · have h' : ¬x = p.1 := fun e => h e.symm
      simpa [has, get?, keys, h, h'] using ih

theorem get?_put (a : Assoc κ ν) (x y : κ) (w : ν) :
    (a.put x w).get? y = if x = y then some w else a.get? y := by
  induction a with
  | nil => simp [put, get?]
  | cons p r ih =>
    by_cases h : p.1 = x <;> by_cases hy : x = y <;> simp_all [put, get?]

theorem keys_put (a : Assoc κ ν) (x : κ) (w : ν) :
    (a.put x w).keys = if x ∈ a.keys then a.keys else a.keys ++ [x] := by
  induction a with
  | nil => simp [put, keys]
  | cons p r ih =>
    by_cases h : p.1 = x
    · simp [put, keys, h]
    · have h' : ¬x = p.1 := fun e => h e.symm
      simp only [keys] at ih
      simp only [put, keys, h, if_false, List.map_cons, List.mem_cons, h', false_or, ih]
      split <;> simp_all

/-- A map keeps one place for each key. -/
theorem nodup_keys_put {a : Assoc κ ν} (h : a.keys.Nodup) (x : κ) (w : ν) :
    (a.put x w).keys.Nodup := by
  rw [keys_put]
  split
  · exact h
  · next hx => exact List.nodup_append.2 ⟨h, by simp, by intro y hy z hz; simp at hz; grind⟩

theorem get?_of_mem {a : Assoc κ ν} (h : a.keys.Nodup) {x : κ} {w : ν} (hm : (x, w) ∈ a) :
    a.get? x = some w := by
  induction a with
  | nil => simp at hm
  | cons p r ih =>
    rw [keys, List.map_cons, List.nodup_cons] at h
    rcases List.mem_cons.1 hm with rfl | hm
    · simp [get?]
    · have hp : p.1 ≠ x := by
        rintro rfl
        exact h.1 (List.mem_map.2 ⟨_, hm, rfl⟩)
      simp [get?, hp, ih h.2 hm]

theorem mem_of_get? {a : Assoc κ ν} {x : κ} {w : ν} (h : a.get? x = some w) : (x, w) ∈ a := by
  induction a with
  | nil => cases h
  | cons p a ih =>
    rw [get?] at h
    split at h
    · next hp => simp [← hp, ← Option.some.inj h]
    · exact List.mem_cons_of_mem p (ih h)

/-- With one place for each key, the values are those of the pairs. -/
theorem get?_eq_some_iff {a : Assoc κ ν} (h : a.keys.Nodup) {x : κ} {w : ν} :
    a.get? x = some w ↔ (x, w) ∈ a := ⟨mem_of_get?, get?_of_mem h⟩

/-- Where the pairs stand does not matter to their values. -/
theorem get?_eq_of_perm {a b : Assoc κ ν} (hab : a.Perm b) (h : a.keys.Nodup) (x : κ) :
    a.get? x = b.get? x := by
  have hb : b.keys.Nodup := (hab.map Prod.fst).nodup h
  refine Option.ext fun w => ?_
  rw [get?_eq_some_iff h, get?_eq_some_iff hb, hab.mem_iff]

/-- A new key goes to the end. -/
theorem put_of_not_mem {a : Assoc κ ν} {x : κ} (h : x ∉ a.keys) (w : ν) :
    a.put x w = a ++ [(x, w)] := by
  induction a with
  | nil => rfl
  | cons p r ih =>
    rw [keys, List.map_cons, List.mem_cons, not_or] at h
    simp [put, Ne.symm h.1, ih h.2]

/-- Pairs with new keys, each of its own, go to the end as they stand. -/
theorem foldl_put {a ps : Assoc κ ν} (h : (keys (a ++ ps)).Nodup) :
    ps.foldl (fun a p => a.put p.1 p.2) a = a ++ ps := by
  induction ps generalizing a with
  | nil => simp
  | cons p r ih =>
    have hk : p.1 ∉ a.keys := by
      rw [keys, List.map_append, List.nodup_append] at h
      exact fun hm => h.2.2 _ hm _ (by simp) rfl
    rw [List.foldl_cons, put_of_not_mem hk, ih (by simpa using h)]
    simp

/-- Pairs with other keys do not change what a key is mapped to. -/
theorem get?_foldl_put_of_not_mem {a ps : Assoc κ ν} {x : κ} (h : x ∉ ps.keys) :
    (ps.foldl (fun a p => a.put p.1 p.2) a).get? x = a.get? x := by
  induction ps generalizing a with
  | nil => rfl
  | cons p r ih =>
    rw [keys, List.map_cons, List.mem_cons, not_or] at h
    rw [List.foldl_cons, ih h.2, get?_put, if_neg (Ne.symm h.1)]

/-- Pairs with a key each come before what was there. -/
theorem get?_foldl_put {a ps : Assoc κ ν} (h : ps.keys.Nodup) (x : κ) :
    (ps.foldl (fun a p => a.put p.1 p.2) a).get? x = (ps.get? x).or (a.get? x) := by
  induction ps generalizing a with
  | nil => rfl
  | cons p r ih =>
    rw [keys, List.map_cons, List.nodup_cons] at h
    rw [List.foldl_cons, ih h.2, get?_put, get?]
    by_cases hp : p.1 = x
    · have hr : get? r x = none := by
        refine Option.not_isSome_iff_eq_none.1 fun hx => h.1 ?_
        exact hp ▸ has_iff_mem_keys.1 hx
      simp [hp, hr]
    · simp [hp]

/-- What holds of all pairs holds of the map that they are put into. -/
theorem forall_mem_put {P : κ × ν → Prop} {a : Assoc κ ν} {x : κ} {w : ν} (hw : P (x, w))
    (ha : ∀ q ∈ a, P q) : ∀ q ∈ a.put x w, P q := by
  induction a with
  | nil => simpa [put] using hw
  | cons p r ih =>
    rw [List.forall_mem_cons] at ha
    rw [put]
    split
    · exact List.forall_mem_cons.2 ⟨hw, ha.2⟩
    · exact List.forall_mem_cons.2 ⟨ha.1, ih ha.2⟩

@[inherit_doc forall_mem_put]
theorem forall_mem_foldl_put {P : κ × ν → Prop} {a ps : Assoc κ ν} (hps : ∀ q ∈ ps, P q)
    (ha : ∀ q ∈ a, P q) : ∀ q ∈ ps.foldl (fun a p => a.put p.1 p.2) a, P q := by
  induction ps generalizing a with
  | nil => exact ha
  | cons p ps ih =>
    rw [List.forall_mem_cons] at hps
    exact ih hps.2 (forall_mem_put hps.1 ha)

/-- The keys that are there stay, and behind them come those that are new, each once. -/
theorem keys_foldl_put {μ : Type} [BEq κ] [LawfulBEq κ] (value : Assoc κ ν → κ × μ → ν)
    (a : Assoc κ ν) (ps : Assoc κ μ) :
    (ps.foldl (fun a p => a.put p.1 (value a p)) a).keys =
      a.keys ++ (ps.keys.filter (· ∉ a.keys)).eraseDups := by
  induction ps generalizing a with
  | nil => simp [keys]
  | cons p ps ih =>
    have hk : keys (p :: ps) = p.1 :: keys ps := rfl
    rw [List.foldl_cons, ih, keys_put, hk]
    by_cases hp : p.1 ∈ a.keys
    · simp only [hp, if_true, List.filter_cons, not_true_eq_false, decide_false,
        Bool.false_eq_true, if_false]
    · simp only [hp, if_false, List.filter_cons, not_false_eq_true, decide_true, if_true,
        List.eraseDups_cons, List.filter_filter, List.append_assoc, List.singleton_append]
      congr 3
      refine List.filter_congr fun x _ => ?_
      by_cases hx : x = p.1 <;> simp [hx]

/-- **Keys stand in the order in which they first came.** -/
theorem keys_ofPairs [BEq κ] [LawfulBEq κ] (ps : List (κ × ν)) :
    (ofPairs ps).keys = (keys ps).eraseDups := by
  have h : (keys ps).filter (· ∉ keys ([] : Assoc κ ν)) = keys ps :=
    List.filter_eq_self.2 fun x _ => decide_eq_true List.not_mem_nil
  rw [ofPairs, keys_foldl_put fun _ p => p.2, h]
  rfl

/-- The places that keys get depend on the keys only. -/
theorem keys_foldl_put_congr {a b ps qs : Assoc κ ν} (hab : a.keys = b.keys)
    (h : ps.keys = qs.keys) :
    (ps.foldl (fun a p => a.put p.1 p.2) a).keys = (qs.foldl (fun a p => a.put p.1 p.2) b).keys := by
  rw [keys_foldl_put fun _ p => p.2, keys_foldl_put fun _ p => p.2, hab, h]

theorem keys_ofPairs_congr {ps qs : Assoc κ ν} (h : ps.keys = qs.keys) :
    (ofPairs ps).keys = (ofPairs qs).keys := keys_foldl_put_congr rfl h

/-- The last pair of a key tells its value. -/
theorem get?_ofPairs (ps : List (κ × ν)) (x : κ) :
    (ofPairs ps).get? x = (ps.reverse.find? fun p => p.1 = x).map Prod.snd := by
  rw [ofPairs, ← List.foldr_reverse]
  induction ps.reverse with
  | nil => rfl
  | cons p ps ih =>
    rw [List.foldr_cons, get?_put, ih]
    by_cases h : p.1 = x <;> simp [h]

/-- **The last pair of a key gives the value.** -/
theorem get?_ofPairs_append {before after : List (κ × ν)} {x : κ} {w : ν} (h : x ∉ keys after) :
    (ofPairs (before ++ (x, w) :: after)).get? x = some w := by
  rw [ofPairs, List.foldl_append, List.foldl_cons, get?_foldl_put_of_not_mem h, get?_put,
    if_pos rfl]

theorem ofPairs_eq_self {ps : Assoc κ ν} (h : ps.keys.Nodup) : ofPairs ps = ps := foldl_put h

end Assoc
end DraftScript
