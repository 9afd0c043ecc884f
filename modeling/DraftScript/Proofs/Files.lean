/-
# Files that are written

Writing a text puts it under the names that the path leads to, if nothing forbids the path or
the text (`write_eq_none_iff`).  A path that leads somewhere goes through directories only, so
a new file at its end does not stand in its way: what was written is found on the same path
(`content?_write`), whatever barriers there are to reading it.
-/

import DraftScript.Files

namespace DraftScript
namespace Files

variable {fs fs' : Files} {halves : Halves} {a : Access} {p : FilePath} {t : Chars} {c : Content}
  {start place names : List Chars} {parts : List Chars}

/-- What the file at a path holds, if there is one. -/
def content? (fs : Files) (p : FilePath) : Option Content :=
  match fs.locate p with
  | .reached names => fs.contents.get? names
  | _ => none

/-- A path can be used when its text and no barrier forbid it, and it leads to names that are no
directory. -/
theorem reach_eq_ok_iff : fs.reach halves a p = .ok names ↔ halves.pathFault? p = none ∧
    fs.barrier? a p = none ∧ fs.locate p = .reached names ∧ fs.isDirectory names = false := by
  rw [reach]
  split
  · next hp => simp [hp]
  · next hb => simp [hb]
  · next hp hb =>
    cases fs.locate p with
    | missing | throughFile | tooLong => simp
    | reached found =>
      cases hd : fs.isDirectory found with
      | true =>
        simp only [hd, if_true, reduceCtorEq, false_iff, not_and, Place.reached.injEq]
        rintro - - rfl
        simp [hd]
      | false =>
        simp only [hd, Bool.false_eq_true, if_false, Except.ok.injEq, hp, hb, true_and,
          Place.reached.injEq]
        exact ⟨fun h => ⟨h, h ▸ hd⟩, And.left⟩

/-- **A text is written when its path can be used for that and the text has no half of a
surrogate pair.** -/
theorem write_eq_none_iff : fs.write halves p t = (fs', none) ↔
    halves.textFault? t = none ∧
      ∃ names, fs.reach halves .write p = .ok names ∧ fs' = fs.put names (.text t) := by
  rw [write]
  cases fs.reach halves .write p with
  | error f => simp
  | ok names => cases halves.textFault? t <;> simp [eq_comm]

/-- A text that nothing forbids is written, or the files stay as they were. -/
theorem eq_of_write_eq_some {f : FileFault} (ht : halves.textFault? t = none)
    (h : fs.write halves p t = (fs', some f)) : fs' = fs := by
  rw [write, ht] at h
  cases hr : fs.reach halves .write p with
  | error f => simp_all
  | ok names => simp [hr] at h

theorem isFile_put_of_ne (h : place ≠ names) : (fs.put place c).isFile names = fs.isFile names := by
  rw [isFile, isFile, Assoc.has, Assoc.has, put, Assoc.get?_put, if_neg h]

/-- A file more makes no directory less. -/
theorem isDirectory_put (h : fs.isDirectory names = true) :
    (fs.put place c).isDirectory names = true := by
  simp only [isDirectory, put, Bool.or_eq_true, List.any_eq_true] at h ⊢
  refine h.imp_right fun ⟨k, hk, hn⟩ => ⟨k, ?_, hn⟩
  rw [Assoc.keys_put]
  split
  · exact hk
  · exact List.mem_append_left _ hk

/-- **A file does not stand in the way of a path that leads somewhere,** unless it stands in
place of a directory. -/
theorem follow_put (hd : fs.isDirectory place = false)
    (h : fs.follow start parts = .reached names) :
    (fs.put place c).follow start parts = .reached names := by
  induction parts generalizing start with
  | nil => exact h
  | cons part parts ih =>
    rw [follow] at h ⊢
    split at h
    · cases h
    · next hf =>
      split at h
      · cases h
      · next hs =>
        split at h
        · cases h
        · next hn =>
          have hs' : fs.isDirectory start = true := by simpa using hs
          have hne : place ≠ start := by
            rintro rfl
            rw [hd] at hs'
            cases hs'
          rw [isFile_put_of_ne hne, if_neg hf, isDirectory_put hs', if_neg hn]
          simpa using ih h

theorem locate_put (hd : fs.isDirectory place = false) (h : fs.locate p = .reached names) :
    (fs.put place c).locate p = .reached names := by
  rw [locate] at h ⊢
  split at h
  · cases h
  · next hlong =>
    rw [if_neg hlong]
    exact follow_put hd h

/-- **What is written to a path is found there.** -/
theorem content?_write (h : fs.write halves p t = (fs', none)) :
    fs'.content? p = some (.text t) := by
  obtain ⟨-, names, hr, rfl⟩ := write_eq_none_iff.1 h
  obtain ⟨-, -, hl, hd⟩ := reach_eq_ok_iff.1 hr
  simp only [content?, locate_put hd hl]
  rw [put, Assoc.get?_put, if_pos rfl]

end Files
end DraftScript
