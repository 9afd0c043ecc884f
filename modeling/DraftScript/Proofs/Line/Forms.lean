/-
# The forms of a line

What a trimmed line is depends on how it can be taken apart.  A declaration is `VAR` and
a blank with anything after it.  An invocation is a name, narrow blanks, and anything
between a parenthesis and the parenthesis at the end; it can be taken apart in one way
only, since no character of a name is blank or a parenthesis
(`invocation?_eq_some_iff`).
-/

import DraftScript.Line
import DraftScript.Proofs.Chars.Trim
import Mathlib.Data.List.TakeWhile
import Mathlib.Order.Basic
import Mathlib.Tactic.ByContra

namespace DraftScript
namespace LineForm

variable {t name arguments body : Chars}

/-- Whether a trimmed line is empty or a comment. -/
def IsNothing (t : Chars) : Prop := t = [] ∨ "//".toList <+: t

/-- Whether a line takes the form of a declaration with a body. -/
def IsDeclaration (t body : Chars) : Prop :=
  t = "VAR".toList ++ body ∧ ∃ c r, body = c :: r ∧ Chars.isBlank c = true

/-- Whether a line takes the form of an invocation of a name with arguments. -/
def IsInvocation (t name arguments : Chars) : Prop :=
  isName name = true ∧ ∃ blanks, (∀ c ∈ blanks, Chars.isAsciiBlank c = true) ∧
    t = name ++ blanks ++ '(' :: (arguments ++ [')'])

theorem isNameChar_of_mem_isName {n : Chars} (h : isName n = true) :
    ∀ c ∈ n, isNameChar c = true := by
  cases n with
  | nil => simp
  | cons c r =>
    rw [isName, Bool.and_eq_true, List.all_eq_true] at h
    refine List.forall_mem_cons.2 ⟨?_, h.2⟩
    simp only [isNameStart, Bool.or_eq_true] at h
    rcases h.1 with h | h
    · simp [isNameChar, Char.isAlphanum, h]
    · simp [isNameChar, h]

/-- The characters of names have codes from 48 to 122. -/
theorem toNat_of_isNameChar {c : Char} (h : isNameChar c = true) :
    48 ≤ c.toNat ∧ c.toNat ≤ 122 := by
  unfold isNameChar Char.isAlphanum Char.isAlpha Char.isUpper Char.isLower Char.isDigit at h
  simp only [Bool.or_eq_true, Bool.and_eq_true, decide_eq_true_eq, ge_iff_le,
    UInt32.le_iff_toNat_le, beq_iff_eq] at h
  rcases h with ((⟨h₁, h₂⟩ | ⟨h₁, h₂⟩) | ⟨h₁, h₂⟩) | rfl
  · exact ⟨le_trans (by decide) h₁, le_trans h₂ (by decide)⟩
  · exact ⟨le_trans (by decide) h₁, h₂⟩
  · exact ⟨h₁, le_trans h₂ (by decide)⟩
  · decide

theorem isBlank_of_isNameChar {c : Char} (h : isNameChar c = true) : Chars.isBlank c = false := by
  have hc := toNat_of_isNameChar h
  unfold Chars.isBlank
  simp only [Bool.or_eq_false_iff, Bool.and_eq_false_iff, decide_eq_false_iff_not,
    beq_eq_false_iff_ne]
  omega

theorem isNameChar_of_isBlank {c : Char} (h : Chars.isBlank c = true) : isNameChar c = false := by
  by_contra hc
  have hb := isBlank_of_isNameChar (Bool.of_not_eq_false hc)
  simp [h] at hb

theorem isNameChar_of_isAsciiBlank {c : Char} (h : Chars.isAsciiBlank c = true) :
    isNameChar c = false := isNameChar_of_isBlank (Chars.isBlank_of_isAsciiBlank h)

/-- What begins with a name and ends with a parenthesis is trimmed. -/
theorem trim_invocation (h : isName name = true) (arguments : Chars) :
    Chars.trim (name ++ '(' :: (arguments ++ [')'])) = name ++ '(' :: (arguments ++ [')']) := by
  obtain ⟨c, r, rfl⟩ := List.exists_cons_of_ne_nil (l := name) (by rintro rfl; simp [isName] at h)
  have hc := isBlank_of_isNameChar (isNameChar_of_mem_isName h c List.mem_cons_self)
  have ht := Chars.trim_cons_concat (t := r ++ '(' :: arguments) hc (d := ')') (by decide)
  rwa [List.append_assoc] at ht

theorem declarationBody?_eq_some_iff : declarationBody? t = some body ↔ IsDeclaration t body := by
  unfold declarationBody? IsDeclaration
  split
  · next c r =>
    rw [Option.ite_none_right_eq_some, Option.some.injEq]
    constructor
    · rintro ⟨hc, rfl⟩
      exact ⟨rfl, c, r, rfl, hc⟩
    · rintro ⟨ht, c', r', rfl, hc⟩
      have hb : c :: r = c' :: r' := by simpa using ht
      obtain ⟨rfl, rfl⟩ := List.cons.inj hb
      exact ⟨hc, rfl⟩
  · next hne =>
    simp only [reduceCtorEq, false_iff, not_and]
    rintro rfl ⟨c, r, rfl, -⟩
    exact hne c r rfl

/-- **An invocation can be taken apart in one way.** -/
theorem invocation?_eq_some_iff :
    invocation? t = some (name, arguments) ↔ IsInvocation t name arguments := by
  have hp : isNameChar '(' = false := by decide
  have hb : Chars.isAsciiBlank '(' = false := by decide
  constructor
  · intro h
    rw [invocation?, Option.ite_none_right_eq_some] at h
    obtain ⟨hn, h⟩ := h
    obtain ⟨inner, hi, he⟩ := Option.map_eq_some_iff.1 h
    obtain ⟨rfl, rfl⟩ := Prod.mk.inj he
    refine ⟨hn, (t.dropWhile isNameChar).takeWhile Chars.isAsciiBlank,
      fun c hc => List.mem_takeWhile_imp hc, ?_⟩
    rw [← Literal.eq_of_enclosed hi, List.append_assoc, List.takeWhile_append_dropWhile,
      List.takeWhile_append_dropWhile]
  · rintro ⟨hn, blanks, hbl, rfl⟩
    have hname := isNameChar_of_mem_isName hn
    have hrest : ∀ r : Chars, (blanks ++ '(' :: r).takeWhile isNameChar = [] ∧
        (blanks ++ '(' :: r).dropWhile isNameChar = blanks ++ '(' :: r := by
      intro r
      cases blanks with
      | nil => simp [hp]
      | cons c b => simp [isNameChar_of_isAsciiBlank (hbl c (by simp))]
    have htake : (name ++ blanks ++ '(' :: (arguments ++ [')'])).takeWhile isNameChar = name := by
      rw [List.append_assoc, List.takeWhile_append_of_pos hname, (hrest _).1, List.append_nil]
    have hdrop : ((name ++ blanks ++ '(' :: (arguments ++ [')'])).dropWhile isNameChar).dropWhile
        Chars.isAsciiBlank = '(' :: (arguments ++ [')']) := by
      rw [List.append_assoc, List.dropWhile_append_of_pos hname, (hrest _).2,
        List.dropWhile_append_of_pos hbl, List.dropWhile_cons_of_neg (by simp [hb])]
    rw [invocation?, htake, hdrop, if_pos hn, Literal.enclosed_append, Option.map_some]

/-! ## The forms exclude each other -/

theorem head?_of_isNothing {c : Char} (h : IsNothing t) (hc : t.head? = some c) : c = '/' := by
  rcases h with rfl | ⟨r, rfl⟩
  · simp at hc
  · simpa using hc.symm

theorem not_isNothing_of_isDeclaration (h : IsDeclaration t body) : ¬IsNothing t := by
  intro hn
  have := head?_of_isNothing (c := 'V') hn (by simp [h.1])
  simp at this

theorem not_isNothing_of_isInvocation (h : IsInvocation t name arguments) : ¬IsNothing t := by
  intro hn
  obtain ⟨hname, blanks, -, rfl⟩ := h
  obtain ⟨c, r, rfl⟩ := List.exists_cons_of_ne_nil (l := name) (by rintro rfl; simp [isName] at hname)
  have hc := isNameChar_of_mem_isName hname c (by simp)
  rw [head?_of_isNothing (c := c) hn (by simp)] at hc
  simp [isNameChar] at hc

/-- What has a parenthesis right behind a name is no declaration. -/
theorem not_isDeclaration_of_isName {r : Chars} (h : isName name = true) (body : Chars) :
    ¬IsDeclaration (name ++ '(' :: r) body := by
  rintro ⟨ht, d, b, rfl, hd⟩
  rcases List.append_eq_append_iff.1 ht with ⟨a, hv, ha⟩ | ⟨a, hn, ha⟩
  · cases a with
    | nil =>
      obtain ⟨rfl, -⟩ := List.cons.inj ha
      simp [Chars.isBlank] at hd
    | cons x a =>
      obtain ⟨rfl, -⟩ := List.cons.inj ha
      have hm : '(' ∈ "VAR".toList := by simp [hv]
      simp at hm
  · cases a with
    | nil =>
      obtain ⟨rfl, -⟩ := List.cons.inj ha
      simp [Chars.isBlank] at hd
    | cons x a =>
      obtain ⟨rfl, -⟩ := List.cons.inj ha
      have hc := isBlank_of_isNameChar (isNameChar_of_mem_isName h d (by simp [hn]))
      simp [hc] at hd

/-! ## The form of a line, told by how it can be taken apart -/

theorem isNothing_iff : IsNothing t ↔ t = [] ∨ "//".toList.isPrefixOf t = true := by
  rw [List.isPrefixOf_iff_prefix, IsNothing]

theorem of_of_isNothing (h : IsNothing t) : of t = .nothing := by
  rw [of, if_pos (isNothing_iff.1 h)]

theorem of_of_isDeclaration (h : IsDeclaration t body) : of t = .declaration body := by
  rw [of, if_neg (mt isNothing_iff.2 (not_isNothing_of_isDeclaration h)),
    declarationBody?_eq_some_iff.2 h]

theorem declarationBody?_eq_none (hd : ∀ body, ¬IsDeclaration t body) :
    declarationBody? t = none :=
  Option.eq_none_iff_forall_ne_some.2 fun body hb => hd body (declarationBody?_eq_some_iff.1 hb)

theorem of_of_isInvocation (hd : ∀ body, ¬IsDeclaration t body)
    (h : IsInvocation t name arguments) : of t = .invocation name arguments := by
  rw [of, if_neg (mt isNothing_iff.2 (not_isNothing_of_isInvocation h)),
    declarationBody?_eq_none hd, invocation?_eq_some_iff.2 h]

theorem of_of_not (hn : ¬IsNothing t) (hd : ∀ body, ¬IsDeclaration t body)
    (hi : ∀ name arguments, ¬IsInvocation t name arguments) : of t = .unknown := by
  have hv : invocation? t = none :=
    Option.eq_none_iff_forall_ne_some.2 fun p hp => hi p.1 p.2 (invocation?_eq_some_iff.1 hp)
  rw [of, if_neg (mt isNothing_iff.2 hn), declarationBody?_eq_none hd, hv]

end LineForm

/-! ## Names -/

/-- A name holds no other characters. -/
theorem not_mem_of_isName {n : Chars} {d : Char} (h : isName n = true)
    (hd : isNameChar d = false) : d ∉ n := fun hm =>
  Bool.false_ne_true (hd.symm.trans (LineForm.isNameChar_of_mem_isName h d hm))

theorem trim_of_isName {n : Chars} (h : isName n = true) : Chars.trim n = n :=
  Chars.trim_eq_self fun c hc =>
    LineForm.isBlank_of_isNameChar (LineForm.isNameChar_of_mem_isName h c hc)

end DraftScript
