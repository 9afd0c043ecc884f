/-
# The characters of a YAML document

A document is read character by character, and of each it matters where it stands: columns
show how deep a line is nested, and lines and distances tell what may be a key. So a text
is cut into cells, and a last cell stands for its end.
-/

import DraftScript.Chars.Basic

namespace DraftScript
namespace Yaml

/-- A character and where it stands. -/
structure Cell where
  char : Char
  line : Nat
  column : Nat
  index : Nat
deriving Repr

/-- The character that stands behind the last one. -/
def endMark : Char := Char.ofNat 0

/-- Whether a character ends a line. -/
def isBreak (c : Char) : Bool :=
  c == '\n' || c == '\r' || c == Char.ofNat 0x85 || c == Char.ofNat 0x2028 || c == Char.ofNat 0x2029

/-- What a line break counts as in a scalar. -/
def breakText (c : Char) : Char :=
  if c == '\r' || c == Char.ofNat 0x85 then '\n' else c

/-- Whether a character separates: a blank, a tab, a break or the end. -/
def isGap (c : Char) : Bool := c == ' ' || c == '\t' || c == endMark || isBreak c

/-- Whether a character ends a word before which no tab may stand. -/
def isEnd (c : Char) : Bool := isGap c && c != '\t'

/-- Whether a character may stand in a document. -/
def isAllowed (c : Char) : Bool :=
  let n := c.toNat
  n == 9 || n == 10 || n == 13 || (0x20 ≤ n && n ≤ 0x7E) || n == 0x85 ||
    (0xA0 ≤ n && n ≤ 0xD7FF) || (0xE000 ≤ n && n ≤ 0xFFFD) || 0x10000 ≤ n

/-- The cells of a text from a place on, with one for its end. -/
def cells (line column index : Nat) : Chars → List Cell
  | [] => [⟨endMark, line, column, index⟩]
  | c :: r =>
    ⟨c, line, column, index⟩ ::
      if isBreak c then cells (line + 1) 0 (index + 1) r
      else cells line (if c == Char.ofNat 0xFEFF then column else column + 1) (index + 1) r

/-- The character of the first cell. -/
def peek (cs : List Cell) : Char := (cs.head?.map (·.char)).getD endMark

/-- The character after `n` cells. -/
def peekAt (n : Nat) (cs : List Cell) : Char := peek (cs.drop n)

/-- The column of the first cell. -/
def column (cs : List Cell) : Nat := (cs.head?.map (·.column)).getD 0

/-- The characters of the cells while they satisfy `p`, and the other cells. -/
def span (p : Char → Bool) (cs : List Cell) : Chars × List Cell :=
  ((cs.takeWhile fun c => p c.char).map (·.char), cs.dropWhile fun c => p c.char)

/-- The cells after blanks. -/
def skipBlanks (cs : List Cell) : List Cell := (span (· == ' ') cs).2

/-- The cells of the end of the line. -/
def skipLine (cs : List Cell) : List Cell := (span (fun c => c != endMark && !isBreak c) cs).2

/-- Whether three of a character and a gap stand here. -/
def isMarker (c : Char) (cs : List Cell) : Bool :=
  peek cs == c && peekAt 1 cs == c && peekAt 2 cs == c && isGap (peekAt 3 cs)

/-- Whether a line that separates documents begins here. -/
def isSeparator (cs : List Cell) : Bool := isMarker '-' cs || isMarker '.' cs

/-- The value of an ASCII digit of a base up to sixteen. -/
def digit? (base : Nat) (c : Char) : Option Nat :=
  let d :=
    if '0' ≤ c ∧ c ≤ '9' then c.toNat - 48
    else if 'a' ≤ c ∧ c ≤ 'f' then c.toNat - 87
    else if 'A' ≤ c ∧ c ≤ 'F' then c.toNat - 55
    else base
  if d < base then some d else none

end Yaml
end DraftScript
