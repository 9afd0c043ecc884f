/-
# Fields that are joined again

The commas that separate cut a text into pieces.  All pieces are closed but the last, which
is unbroken, and joined by commas they are the text again; no other texts are so
(`pieces_eq_concat_iff`).  Trimming a piece leaves it closed or unbroken as it was
(`closed_trim_iff`, `unbroken_trim`).

So splitting and joining undo each other (`split_join`), whatever blanks stand around the
fields.  Only the last field may leave a quote or a bracket open, and it must not be blank,
since a blank one at the end does not count.
-/

import DraftScript.Proofs.Field.Scan
import Mathlib.Data.List.Forall2

namespace DraftScript
namespace Field

variable {t a b u : Chars} {ts us : List Chars}

/-! ## Pieces of any text -/

/-- A text is unbroken or has a first comma that separates. -/
theorem Scan.unbroken_or_exists (s : Scan) (t : Chars) : s.unbroken t = true ∨
    ∃ a r, t = a ++ ',' :: r ∧ s.unbroken a = true ∧ (s.run a).separates ',' = true := by
  induction t generalizing s with
  | nil => exact .inl rfl
  | cons c t ih =>
    cases hc : s.separates c with
    | true =>
      obtain rfl : c = ',' := by
        by_contra hne
        rw [Scan.separates_of_ne hne] at hc
        cases hc
      exact .inr ⟨[], t, rfl, rfl, hc⟩
    | false =>
      rcases ih (s.step c) with h | ⟨a, r, rfl, ha, hr⟩
      · exact .inl (by rw [Scan.unbroken, hc, h]; rfl)
      · exact .inr ⟨c :: a, r, rfl, by rw [Scan.unbroken, hc, ha]; rfl, hr⟩

theorem Closed.of_separates (h : Scan.unbroken {} t = true)
    (hs : (Scan.run {} t).separates ',' = true) : Closed t := by
  simp only [Scan.separates, Bool.and_eq_true, beq_iff_eq, Bool.not_eq_true'] at hs
  exact ⟨h, hs.2, hs.1.2⟩

/-- Every text is made of closed texts and an unbroken one. -/
theorem exists_eq_intercalate (t : Chars) : ∃ ts a, t = ",".toList.intercalate (ts ++ [a]) ∧
    (∀ u ∈ ts, Closed u) ∧ Scan.unbroken {} a = true := by
  -- Behind the first comma that separates the scan begins anew, on a shorter text.
  induction h : t.length using Nat.strong_induction_on generalizing t with
  | _ n ih =>
    rcases Scan.unbroken_or_exists {} t with ht | ⟨a, r, rfl, ha, hs⟩
    · exact ⟨[], t, by rw [List.nil_append, List.intercalate_singleton], by simp, ht⟩
    · have hlt : r.length < n := by
        rw [← h, List.length_append, List.length_cons]
        omega
      obtain ⟨ts, d, hr, hts, hd⟩ := ih r.length hlt r rfl
      refine ⟨a :: ts, d, ?_, List.forall_mem_cons.2 ⟨.of_separates ha hs, hts⟩, hd⟩
      rw [List.cons_append, List.intercalate_cons_of_ne_nil (by simp), ← hr, List.append_assoc]
      rfl

/-- **The pieces of a text are the closed texts and the unbroken one behind them that commas
join to it.** -/
theorem pieces_eq_concat_iff : pieces {} t = ts ++ [a] ↔
    t = ",".toList.intercalate (ts ++ [a]) ∧ (∀ u ∈ ts, Closed u) ∧ Scan.unbroken {} a = true := by
  constructor
  · intro h
    obtain ⟨us, b, rfl, hus, hb⟩ := exists_eq_intercalate t
    rw [pieces_intercalate hus hb] at h
    obtain ⟨rfl, he⟩ := List.append_inj' h rfl
    obtain rfl := List.singleton_injective he
    exact ⟨rfl, hus, hb⟩
  · rintro ⟨rfl, hts, ha⟩
    exact pieces_intercalate hts ha

theorem exists_pieces_eq (t : Chars) : ∃ ts a, pieces {} t = ts ++ [a] ∧
    (∀ u ∈ ts, Closed u) ∧ Scan.unbroken {} a = true := by
  obtain ⟨ts, a, h⟩ := exists_eq_intercalate t
  exact ⟨ts, a, pieces_eq_concat_iff.2 h, h.2⟩

/-! ## Trimmed pieces -/

/-- Blanks do not change what is open and separate nothing. -/
theorem Scan.run_blanks (s : Scan) (hb : ∀ c ∈ b, Chars.isBlank c = true) :
    s.unbroken b = true ∧ (s.run b).depth = s.depth ∧ (s.run b).inQuotes = s.inQuotes := by
  have hne : ∀ c ∈ b, ∀ d, Chars.isBlank d = false → c ≠ d := by
    rintro c hc d hd rfl
    rw [hb c hc] at hd
    cases hd
  have hf : Scan.IsFlat b := fun c hc => ⟨hne c hc '"' (by decide), by
    rw [Scan.weight, if_neg (by simp [hne c hc '[' (by decide), hne c hc '(' (by decide)]),
      if_neg (by simp [hne c hc ']' (by decide), hne c hc ')' (by decide)])]⟩
  exact ⟨Scan.unbroken_of_isFlat hf (.inl fun hm => hne ',' hm ',' (by decide) rfl),
    Scan.run_of_isFlat hf⟩

/-- Trimming does not change whether a comma separates. -/
theorem unbroken_trim (t : Chars) : Scan.unbroken {} (Chars.trim t) = Scan.unbroken {} t := by
  obtain ⟨a, b, ht, ha, hb⟩ := Chars.exists_eq_append_trim_append t
  obtain ⟨hu, hr⟩ := Scan.run_of_isBlank ha
  conv_rhs => rw [ht]
  rw [List.append_assoc, Scan.unbroken_append, hu, hr, Scan.unbroken_append, (Scan.run_blanks _ hb).1]
  simp

/-- Nor does it change what is open at the end. -/
theorem run_trim (t : Chars) : (Scan.run {} (Chars.trim t)).depth = (Scan.run {} t).depth ∧
    (Scan.run {} (Chars.trim t)).inQuotes = (Scan.run {} t).inQuotes := by
  obtain ⟨a, b, ht, ha, hb⟩ := Chars.exists_eq_append_trim_append t
  have hr : Scan.run {} t = (Scan.run {} (Chars.trim t)).run b := by
    conv_lhs => rw [ht]
    rw [List.append_assoc, Scan.run_append, (Scan.run_of_isBlank ha).2, Scan.run_append]
  rw [hr]
  exact ⟨(Scan.run_blanks _ hb).2.1.symm, (Scan.run_blanks _ hb).2.2.symm⟩

theorem closed_trim_iff : Closed (Chars.trim t) ↔ Closed t := by
  have hu := unbroken_trim t
  obtain ⟨hd, hi⟩ := run_trim t
  exact ⟨fun h => ⟨hu ▸ h.unbroken, hd ▸ h.depth, hi ▸ h.inQuotes⟩,
    fun h => ⟨hu ▸ h.unbroken, hd ▸ h.depth, hi ▸ h.inQuotes⟩⟩

/-! ## Splitting and joining -/

/-- Whether a text is another with blanks around it. -/
def IsPadded (t u : Chars) : Prop :=
  ∃ a b, u = a ++ t ++ b ∧ (∀ c ∈ a, Chars.isBlank c = true) ∧ ∀ c ∈ b, Chars.isBlank c = true

theorem IsPadded.trim_eq (h : IsPadded t u) : Chars.trim u = Chars.trim t := by
  obtain ⟨a, b, rfl, ha, hb⟩ := h
  exact Chars.trim_append_of_blank ha hb

theorem trim_eq_of_padded (h : List.Forall₂ IsPadded ts us) (ht : ∀ t ∈ ts, Chars.trim t = t) :
    us.map Chars.trim = ts := by
  have hm : us.map Chars.trim = ts.map Chars.trim := by
    rw [← List.forall₂_eq_eq_eq, List.forall₂_map_left_iff, List.forall₂_map_right_iff]
    exact h.flip.imp fun u t hp => IsPadded.trim_eq hp
  rw [hm]
  exact (List.map_congr_left ht).trans (List.map_id' ts)

/-- Padded fields that are joined are split into the fields. -/
theorem split_padded (h : List.Forall₂ IsPadded ts us) (ht : ∀ t ∈ ts, Chars.trim t = t)
    (hc : ∀ t ∈ ts, Closed t) (hl : ts.getLast? ≠ some []) :
    split (",".toList.intercalate us) = ts := by
  have hm := trim_eq_of_padded h ht
  have hcu : ∀ u ∈ us, Closed u := fun u hu =>
    closed_trim_iff.1 (hc _ (hm ▸ List.mem_map_of_mem hu))
  have := split_intercalate_trim (b := []) (by simp) hcu (by rwa [hm])
  rwa [hm] at this

/-- A field is trimmed and unbroken. -/
theorem trim_eq_and_unbroken_of_mem_split (h : u ∈ split t) :
    Chars.trim u = u ∧ Scan.unbroken {} u = true := by
  obtain ⟨ts, a, hp, hts, ha⟩ := exists_pieces_eq t
  have key : ∀ v, Scan.unbroken {} v = true →
      Chars.trim (Chars.trim v) = Chars.trim v ∧ Scan.unbroken {} (Chars.trim v) = true :=
    fun v hv => ⟨Chars.trim_trim v, by rwa [unbroken_trim]⟩
  rw [split_of_pieces hp, List.mem_append] at h
  rcases h with h | h
  · obtain ⟨v, hv, rfl⟩ := List.mem_map.1 h
    exact key v (hts v hv).unbroken
  · split at h
    · simp at h
    · obtain rfl := List.mem_singleton.1 h
      exact key a ha

/-- A field is split into itself alone, unless it is blank. -/
theorem split_of_mem_split (h : u ∈ split t) (hne : u ≠ []) : split u = [u] := by
  obtain ⟨ht, hu⟩ := trim_eq_and_unbroken_of_mem_split h
  rw [split_of_unbroken hu, ht, if_neg hne]

/-- The fields that are joined are split into the fields. -/
theorem split_intercalate_fields (h : (split t).getLast? ≠ some []) :
    split (", ".toList.intercalate (split t)) = split t := by
  obtain ⟨ts, a, hp, hts, ha⟩ := exists_pieces_eq t
  have hc : ∀ u ∈ ts.map Chars.trim, Closed u :=
    List.forall_mem_map.2 fun u hu => closed_trim_iff.2 (hts u hu)
  have ht : ∀ u ∈ ts.map Chars.trim, Chars.trim u = u :=
    List.forall_mem_map.2 fun u _ => Chars.trim_trim u
  have hs := split_of_pieces hp
  by_cases hb : Chars.trim a = []
  · rw [if_pos hb, List.append_nil] at hs
    rw [hs] at h ⊢
    exact split_intercalate hc ht h
  · rw [if_neg hb] at hs
    have := split_intercalate_concat (b := [' ']) (a := Chars.trim a)
      (List.forall_mem_singleton.2 rfl) hc (by rwa [unbroken_trim]) (by rwa [Chars.trim_trim])
    rw [List.map_append, List.map_singleton, Chars.trim_trim, List.map_congr_left ht,
      List.map_id'] at this
    rw [hs]
    exact this

/-- **Joining and splitting undo each other.** Trimmed closed fields, with any blanks around
them, are split into themselves when commas join them, unless the last is blank. Every field
that is not blank is split into itself alone, and joined again the fields are split into
themselves, unless the last is blank. -/
theorem split_join :
    (∀ ts us : List Chars, List.Forall₂ IsPadded ts us → (∀ t ∈ ts, Chars.trim t = t) →
      (∀ t ∈ ts, Closed t) → ts.getLast? ≠ some [] → split (",".toList.intercalate us) = ts) ∧
    ∀ t, (∀ u ∈ split t, u ≠ [] → split u = [u]) ∧
      ((split t).getLast? ≠ some [] → split (", ".toList.intercalate (split t)) = split t) :=
  ⟨fun _ _ h ht hc hl => split_padded h ht hc hl,
    fun _ => ⟨fun _ hu hne => split_of_mem_split hu hne, split_intercalate_fields⟩⟩

/-- Fields with an escaped quote, of blanks only, and with a backslash at the end; and an
argument list with a blank field whose last field leaves a quote and a bracket open. -/
theorem split_join_unclosed :
    split (",".toList.intercalate [" n=\"a,\\\"b\"\t", " ", "(1,2)\\ "]) =
        ["n=\"a,\\\"b\"", "", "(1,2)\\"] ∧
      split "q=[\",]" = ["q=[\",]".toList] ∧
      split (", ".toList.intercalate (split " p=(1, 2) ,,q=[\",] ")) =
        split " p=(1, 2) ,,q=[\",] " := by
  obtain ⟨hpadded, hfields⟩ := split_join
  obtain ⟨halone, hagain⟩ := hfields " p=(1, 2) ,,q=[\",] "
  refine ⟨hpadded _ _ (.cons ?_ (.cons ?_ (.cons ?_ .nil))) ?_ ?_ ?_, halone _ ?_ ?_, hagain ?_⟩
  · exact ⟨" ", "\t", by decide, by simp; rfl, by simp; rfl⟩
  · exact ⟨" ", "", by decide, by simp; rfl, by simp⟩
  · exact ⟨"", " ", by decide, by simp, by simp; rfl⟩
  all_goals decide +kernel

end Field
end DraftScript
