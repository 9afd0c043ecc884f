/-
# Substitution in pieces

A text that is cut is not always substituted piece by piece.  A `$` may be the end of one piece
and the name behind it the beginning of the next, and what is a bound name at the end of a piece
may be the beginning of a longer one.

Either takes a name that reaches over the cut, and a table binds names only, whatever was asked
of it (`named_after`).  So a cut before a character that no name holds is not seen: the longest
bound name is the same with and without what stands behind the cut (`longestBound_append`), and
the pieces are substituted apart (`expand_append`).  Before any other character there is a table
that does see the cut (`exists_substitute_append_ne`).

A comma is such a character.  The parts of a text between its commas are therefore substituted
apart, and they are still the parts afterwards if no bound text brings a comma with it
(`splitOn_expand`).  Blanks are such characters too, so the components of a literal, which are
its parts trimmed, may be substituted trimmed as well (`components_expand`).
-/

import DraftScript.Literal
import DraftScript.Proofs.Chars.Split
import DraftScript.Proofs.Line.Forms
import DraftScript.Proofs.Variables.History

namespace DraftScript
namespace Variables

/-! ## What a table binds -/

namespace Meaning

/-- Whether nothing but names has a text. -/
def Named (m : Meaning) : Prop := ∀ n x, m n = some x → isName n = true

/-- **A call binds names only.** -/
theorem Named.call {m : Meaning} (h : m.Named) (c : Call) : (m.call c).2.Named := by
  cases c with
  | define name text =>
    rw [Meaning.call]
    split
    · next hname =>
      intro n x hx
      change Function.update m name (some text) n = some x at hx
      rw [Function.update_apply] at hx
      split at hx
      · next hn => rwa [hn]
      · exact h n x hx
    · exact h
  | clear =>
    intro n x hx
    cases hx
  | get name => exact h
  | substitute text => exact h

end Meaning

/-- **A table goes on binding names only,** whatever is asked of it. -/
theorem named_after {v : Variables} (h : Meaning.Named v.get?) (cs : List Call) :
    Meaning.Named (v.after cs).get? := by
  induction cs generalizing v with
  | nil => exact h
  | cons c cs ih =>
    refine ih ?_
    rw [(get?_call v c).2]
    exact h.call c

theorem named_empty : Meaning.Named empty.get? := by
  intro n x hx
  cases hx

/-! ## A cut that no name reaches over -/

section Cut

variable {m : Meaning} {a b n : Chars}

/-- A name ends before a character that no name holds. -/
theorem isPrefix_append_iff (hn : isName n = true) (hb : ∀ c ∈ b.head?, isNameChar c = false) :
    n <+: a ++ b ↔ n <+: a := by
  refine ⟨fun h => ?_, fun h => h.trans (List.prefix_append a b)⟩
  rcases List.prefix_or_prefix_of_prefix h (List.prefix_append a b) with h' | ⟨d, rfl⟩
  · exact h'
  · rw [List.prefix_append_right_inj] at h
    cases d with
    | nil => rw [List.append_nil]
    | cons c d =>
      obtain ⟨r, rfl⟩ := h
      have hc : c ∉ a ++ c :: d := not_mem_of_isName hn (hb c rfl)
      exact absurd (List.mem_append_right a List.mem_cons_self) hc

/-- **No bound name gets longer by what stands behind the cut.** -/
theorem longestBound_append (hm : m.Named) (hb : ∀ c ∈ b.head?, isNameChar c = false) :
    longestBound m (a ++ b) = longestBound m a := by
  have hp : ∀ n, (m n).isSome → (n <+: a ++ b ↔ n <+: a) := fun n hs => by
    obtain ⟨x, hx⟩ := Option.isSome_iff_exists.1 hs
    exact isPrefix_append_iff (hm n x hx) hb
  refine Option.ext fun ⟨n, x⟩ => ?_
  rw [longestBound_eq_some_iff, longestBound_eq_some_iff]
  constructor
  · rintro ⟨h, hx, hl⟩
    exact ⟨(hp n (by simp [hx])).1 h, hx, fun n' h' hs => hl n' ((hp n' hs).2 h') hs⟩
  · rintro ⟨h, hx, hl⟩
    exact ⟨(hp n (by simp [hx])).2 h, hx, fun n' h' hs => hl n' ((hp n' hs).1 h') hs⟩

/-- **Two pieces are substituted apart** if the second begins with a character that no name
holds, or is empty. -/
theorem expand_append (hm : m.Named) (a : Chars) (hb : ∀ c ∈ b.head?, isNameChar c = false) :
    expand m (a ++ b) = expand m a ++ expand m b := by
  -- The induction reads `a` as a substitution does; a `$` at its end is the case of no name.
  induction a using expand.induct m with
  | case1 => rw [expand_nil, List.nil_append, List.nil_append]
  | case2 r n x hl ih =>
    have hn : n.length ≤ r.length := (longestBound_eq_some_iff.1 hl).1.length_le
    have hl' : longestBound m (r ++ b) = some (n, x) := (longestBound_append hm hb).trans hl
    rw [List.cons_append, expand_dollar_of_some hl', List.drop_append_of_le_length hn, ih,
      expand_dollar_of_some hl, List.append_assoc]
  | case3 r hl ih =>
    have hl' : longestBound m (r ++ b) = none := (longestBound_append hm hb).trans hl
    rw [List.cons_append, expand_dollar_of_none hl', ih, expand_dollar_of_none hl,
      List.cons_append]
  | case4 c r hc ih =>
    rw [List.cons_append, expand_cons_of_ne hc, ih, expand_cons_of_ne hc, List.cons_append]

end Cut

/-- **Any other cut is seen by some table.** -/
theorem exists_substitute_append_ne {c : Char} (hc : isNameChar c = true) (b : Chars) :
    ∃ cs a, let v := empty.after cs
      v.substitute (a ++ c :: b) ≠ v.substitute a ++ v.substitute (c :: b) := by
  -- With `a` and `ac` bound to nothing, the `c` behind `$a` stays only if there is a cut.
  refine ⟨[.define ['a'] [], .define ['a', c] []], ['$', 'a'], ?_⟩
  intro v h
  have hv : v.bindings = [(['a'], []), (['a', c], [])] := by
    simp [v, after, call, define?, isName, isNameStart, hc, empty, Assoc.put]
  have ha : v.get? ['a'] = some [] := by simp [get?, hv, Assoc.get?]
  have hac : v.get? ['a', c] = some [] := by simp [get?, hv, Assoc.get?]
  have hl : longestBound v.get? ('a' :: c :: b) = some (['a', c], []) := by
    refine longestBound_eq_some_iff.2 ⟨⟨b, rfl⟩, hac, fun n _ hn => ?_⟩
    obtain ⟨x, hx⟩ := Option.isSome_iff_exists.1 hn
    have hm : (n, x) ∈ v.bindings := Assoc.mem_of_get? hx
    rw [hv] at hm
    rcases List.mem_pair.1 hm with hm | hm <;> simp [(Prod.mk.inj hm).1]
  have hd : c ≠ '$' := by
    rintro rfl
    exact absurd hc (by decide)
  rw [substitute_name ha, substitute_eq_expand, substitute_eq_expand, List.cons_append,
    List.cons_append, List.nil_append, expand_dollar_of_some hl, expand_cons_of_ne hd] at h
  exact absurd (congrArg List.length h) (by simp)

/-! ## Parts between separators -/

section Parts

variable {m : Meaning} {t : Chars} {c sep : Char}

/-- What stands in a substituted text stood in the text or stands in a bound one. -/
theorem mem_of_mem_expand (h : c ∈ expand m t) : c ∈ t ∨ ∃ n x, m n = some x ∧ c ∈ x := by
  induction t using expand.induct m with
  | case1 =>
    rw [expand_nil] at h
    exact .inl h
  | case2 r n x hl ih =>
    rw [expand_dollar_of_some hl] at h
    rcases List.mem_append.1 h with h | h
    · exact .inr ⟨n, x, (longestBound_eq_some_iff.1 hl).2.1, h⟩
    · exact (ih h).imp_left fun hr => List.mem_cons_of_mem _ (List.mem_of_mem_drop hr)
  | case3 r hl ih =>
    rw [expand_dollar_of_none hl] at h
    rcases List.mem_cons.1 h with rfl | h
    · exact .inl List.mem_cons_self
    · exact (ih h).imp_left (List.mem_cons_of_mem _)
  | case4 d r hd ih =>
    rw [expand_cons_of_ne hd] at h
    rcases List.mem_cons.1 h with rfl | h
    · exact .inl List.mem_cons_self
    · exact (ih h).imp_left (List.mem_cons_of_mem _)

/-- Joined texts are substituted apart if no name holds the separator and it is no `$`. -/
theorem expand_intercalate (hm : m.Named) (hs : isNameChar sep = false) (hd : sep ≠ '$')
    (ps : List Chars) :
    expand m ([sep].intercalate ps) = [sep].intercalate (ps.map (expand m)) := by
  induction ps with
  | nil => exact expand_nil
  | cons p ps ih =>
    cases ps with
    | nil => simp
    | cons q qs =>
      have hb : ∀ c ∈ (sep :: [sep].intercalate (q :: qs)).head?, isNameChar c = false := by
        simpa using hs
      calc expand m ([sep].intercalate (p :: q :: qs))
          = expand m (p ++ sep :: [sep].intercalate (q :: qs)) := by
            rw [List.intercalate_cons_cons, List.append_assoc, List.singleton_append]
        _ = expand m p ++ sep :: expand m ([sep].intercalate (q :: qs)) := by
            rw [expand_append hm p hb, expand_cons_of_ne hd]
        _ = [sep].intercalate ((p :: q :: qs).map (expand m)) := by
            rw [ih, List.map_cons, List.map_cons, List.map_cons, List.intercalate_cons_cons,
              List.append_assoc, List.singleton_append]

/-- **The parts of a substituted text are the substituted parts,** if no bound text holds the
separator. -/
theorem splitOn_expand (hm : m.Named) (hs : isNameChar sep = false) (hd : sep ≠ '$')
    (hx : ∀ n x, m n = some x → sep ∉ x) (t : Chars) :
    Chars.splitOn sep (expand m t) = (Chars.splitOn sep t).map (expand m) := by
  obtain ⟨hne, ht, hp⟩ := Chars.splitOn_eq_iff.1 (rfl : Chars.splitOn sep t = _)
  refine Chars.splitOn_eq_iff.2 ⟨mt List.map_eq_nil_iff.1 hne, ?_, ?_⟩
  · rw [← expand_intercalate hm hs hd, ht]
  · refine List.forall_mem_map.2 fun p hpt hmem => ?_
    rcases mem_of_mem_expand hmem with h | ⟨n, x, hn, h⟩
    · exact hp p hpt h
    · exact hx n x hn h

/-- Blanks at the ends of a text are not seen by a substitution, nor by trimming after it. -/
theorem trim_expand_trim (hm : m.Named) (t : Chars) :
    Chars.trim (expand m (Chars.trim t)) = Chars.trim (expand m t) := by
  have hd : ∀ l : Chars, (∀ c ∈ l, Chars.isBlank c = true) → '$' ∉ l := fun l hl h =>
    absurd (hl '$' h) (by decide)
  obtain ⟨a, b, ht, ha, hb⟩ := Chars.exists_eq_append_trim_append t
  have hcut : ∀ c ∈ b.head?, isNameChar c = false := fun c hc =>
    LineForm.isNameChar_of_isBlank (hb c (List.mem_of_mem_head? hc))
  have he : expand m t = a ++ expand m (Chars.trim t) ++ b := by
    conv_lhs => rw [ht]
    rw [expand_append hm _ hcut, expand_append_of_not_mem (hd a ha), expand_of_not_mem (hd b hb)]
  rw [he, Chars.trim_append_of_blank ha hb]

/-- **The components of a substituted literal are its substituted components,** trimmed as they
are, if no bound text holds a comma. -/
theorem components_expand (hm : m.Named) (hx : ∀ n x, m n = some x → ',' ∉ x) (t : Chars) :
    Literal.components (expand m t) =
      (Literal.components t).map fun p => Chars.trim (expand m p) := by
  rw [Literal.components, splitOn_expand hm (by decide) (by decide) hx, Literal.components,
    List.map_map, List.map_map]
  exact List.map_congr_left fun p _ => (trim_expand_trim hm p).symm

end Parts

/-! ## Pieces in any table -/

/-- **Texts are substituted in pieces.** Whatever was asked of a table, two texts may be joined
before or after their substitution if the second is empty or begins with a character that no
name holds; and if no bound text holds a comma, a literal may be cut at its commas before or
after its substitution.  Its components, which are these parts trimmed, are then trimmed again.
For a second text that begins with any other character, there are a table and a first text for
which the order matters. -/
theorem substitute_piecewise :
    (∀ cs, let v := empty.after cs
      (∀ a b, (∀ c ∈ b.head?, isNameChar c = false) →
        v.substitute (a ++ b) = v.substitute a ++ v.substitute b) ∧
      ((∀ p ∈ v.bindings, ',' ∉ p.2) → ∀ t,
        (Chars.splitOn ',' t).map v.substitute = Chars.splitOn ',' (v.substitute t) ∧
        (Literal.components t).map (fun p => Chars.trim (v.substitute p)) =
          Literal.components (v.substitute t))) ∧
    ∀ c b, isNameChar c = true → ∃ cs a, let v := empty.after cs
      v.substitute (a ++ c :: b) ≠ v.substitute a ++ v.substitute (c :: b) := by
  refine ⟨fun cs => ?_, fun c b hc => exists_substitute_append_ne hc b⟩
  intro v
  have hv : v.substitute = expand v.get? := funext v.substitute_eq_expand
  have hm : Meaning.Named v.get? := named_after named_empty cs
  rw [hv]
  refine ⟨fun a b hb => expand_append hm a hb, fun hc t => ?_⟩
  have hx : ∀ n x, v.get? n = some x → ',' ∉ x := fun n x hn => hc (n, x) (Assoc.mem_of_get? hn)
  exact ⟨(splitOn_expand hm (by decide) (by decide) hx t).symm, (components_expand hm hx t).symm⟩

/-- A `$` before the cut, a name that begins another one, and bound texts with blanks around
them and with a `$` in them. -/
theorem substitute_piecewise_point :
    let v := empty.after [.define "a" "$ab", .define "ab" " 2 "]
    let t : Chars := " $ab ,$a$ab,$"
    (∀ c ∈ ", 3]".toList.head?, isNameChar c = false) ∧ (∀ p ∈ v.bindings, ',' ∉ p.2) ∧
      v.substitute ("[$ab,$" ++ ", 3]") = v.substitute "[$ab,$" ++ v.substitute ", 3]" ∧
      Literal.components (v.substitute t) = ["2".toList, "$ab 2".toList, "$".toList] := by
  intro v t
  have hb : ∀ c ∈ ", 3]".toList.head?, isNameChar c = false := by
    intro c hc
    obtain rfl : ',' = c := Option.some.inj hc
    decide
  have hv : ∀ p ∈ v.bindings, ',' ∉ p.2 := by decide +kernel
  obtain ⟨hcut, hparts⟩ := substitute_piecewise.1 [.define "a" "$ab", .define "ab" " 2 "]
  refine ⟨hb, hv, hcut _ _ hb, ?_⟩
  rw [← (hparts hv t).2]
  simp only [substitute_eq_expand]
  decide +kernel

end Variables
end DraftScript
