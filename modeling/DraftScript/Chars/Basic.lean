/-
# Text as a list of characters

Scripts, templates and the texts made from them are lists of characters, so a
scanner is a recursion on the text and a law about it is an induction.

| operation | rule |
| --- | --- |
| `trim` | drops blank characters at both ends |
| `splitOn` | cuts at every separator and keeps empty parts |
| `lines` | `splitOn` at line feeds |
| `unlines` | joins with line feeds |

Blank characters are the 25 white-space code points of Unicode and the four
separator controls `U+001C` … `U+001F`. A text may hold half of a surrogate pair, which is
a code but no character; 2048 code points that are assigned to nothing stand for them.
-/

namespace DraftScript

/-- Text, one character per element. -/
abbrev Chars := List Char

/-- Texts are equal when they are found equal. -/
instance : LawfulBEq Chars := inferInstance

/-- A string literal stands for its characters. -/
instance : Coe String Chars := ⟨String.toList⟩

namespace Chars

/-- White space in the wide sense: the Unicode class and the separator controls. -/
def isBlank (c : Char) : Bool :=
  let n := c.toNat
  (9 ≤ n && n ≤ 13) || (28 ≤ n && n ≤ 32) || n == 0x85 || n == 0xA0 || n == 0x1680 ||
    (0x2000 ≤ n && n ≤ 0x200A) || n == 0x2028 || n == 0x2029 || n == 0x202F || n == 0x205F ||
    n == 0x3000

/-- White space in the narrow sense: the space and the ASCII controls 9 to 13. -/
def isAsciiBlank (c : Char) : Bool :=
  (9 ≤ c.toNat && c.toNat ≤ 13) || c == ' '

/-- Narrow white space is white space. -/
theorem isBlank_of_isAsciiBlank {c : Char} (h : isAsciiBlank c = true) : isBlank c = true := by
  simp only [isAsciiBlank, Bool.or_eq_true, Bool.and_eq_true, decide_eq_true_eq,
    beq_iff_eq] at h
  rcases h with h | rfl
  · simp [isBlank, h]
  · decide

/-- The text without its longest ending of characters in `p`. -/
def dropEndWhile (p : Char → Bool) (t : Chars) : Chars :=
  (t.reverse.dropWhile p).reverse

theorem dropEndWhile_concat (p : Char → Bool) (t : Chars) (c : Char) :
    dropEndWhile p (t ++ [c]) = if p c then dropEndWhile p t else t ++ [c] := by
  cases h : p c <;> simp [dropEndWhile, h]

/-- The text without blank characters at either end. -/
def trim (t : Chars) : Chars :=
  dropEndWhile isBlank (t.dropWhile isBlank)

/-- The parts between the separators, of which there is one more than separators. -/
def splitOn (sep : Char) : Chars → List Chars
  | [] => [[]]
  | c :: r =>
    if c = sep then [] :: splitOn sep r
    else match splitOn sep r with
      | [] => [[c]]
      | p :: ps => (c :: p) :: ps

theorem splitOn_ne_nil (sep : Char) (t : Chars) : splitOn sep t ≠ [] := by
  cases t with
  | nil => simp [splitOn]
  | cons c r =>
    unfold splitOn
    split
    · simp
    · split <;> simp

/-- The text up to the first separator and the text after it, if there is one. -/
def cutAt (sep : Char) : Chars → Option (Chars × Chars)
  | [] => none
  | c :: r => if c = sep then some ([], r) else (cutAt sep r).map fun p => (c :: p.1, p.2)

theorem eq_of_cutAt {sep : Char} {t a b : Chars} (h : cutAt sep t = some (a, b)) :
    t = a ++ sep :: b := by
  induction t generalizing a with
  | nil => simp [cutAt] at h
  | cons c r ih =>
    unfold cutAt at h
    split at h
    · simp_all
    · obtain ⟨⟨a', b'⟩, h', he⟩ := Option.map_eq_some_iff.1 h
      simp only [Prod.mk.injEq] at he
      obtain ⟨rfl, rfl⟩ := he
      simp [ih h']

/-- The lines of a text, which line feeds separate. -/
def lines (t : Chars) : List Chars := splitOn '\n' t

/-- The lines as one text. -/
def unlines (ls : List Chars) : Chars := "\n".toList.intercalate ls

/-- The code of the first character that stands for half of a surrogate pair. -/
def firstHalf : Nat := 0xBD800

/-- The character of a code. -/
def ofCode (n : Nat) : Char :=
  Char.ofNat (if 0xD800 ≤ n ∧ n < 0xE000 then n - 0xD800 + firstHalf else n)

/-- Whether a character stands for half of a surrogate pair. -/
def isHalf (c : Char) : Bool := firstHalf ≤ c.toNat && c.toNat < firstHalf + 0x800

/-- The code of a character. -/
def code (c : Char) : Nat := if isHalf c then c.toNat - firstHalf + 0xD800 else c.toNat

/-- A whole number in decimal digits. -/
def ofNat (n : Nat) : Chars := Nat.toDigits 10 n

/-- A whole number in decimal digits, after a minus sign when it is negative. -/
def ofInt (n : Int) : Chars :=
  if n < 0 then '-' :: ofNat n.natAbs else ofNat n.natAbs

/-- The text with spaces before it up to a width of `n`. -/
def padStart (n : Nat) (t : Chars) : Chars :=
  List.replicate (n - t.length) ' ' ++ t

/-- Whether `p` begins `t`. -/
def startsWith (t p : Chars) : Bool := p.isPrefixOf t

/-- Whether `p` ends `t`. -/
def endsWith (t p : Chars) : Bool := p.isSuffixOf t

end Chars
end DraftScript
