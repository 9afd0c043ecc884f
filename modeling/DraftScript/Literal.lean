/-
# Reading a literal

A text, trimmed, is read by the first rule that fits:

| text | value |
| --- | --- |
| `[a, b, c]` | point |
| `<a, b, c>` | vector |
| `RGB(a, b, c)`, the keyword in any case | color |
| `"…"` | the text between the quotes |
| `true`, `false` in any case | boolean |
| a plain decimal numeral | number |
| anything else | the text itself |

A text of one of the first three shapes is never a text value: with other than three
components, or with a component that is no number, it is refused.
-/

import DraftScript.Chars.Quoted
import DraftScript.Number.Numeral
import DraftScript.Refusal
import DraftScript.Value

namespace DraftScript
namespace Literal

/-- The literals with three components. -/
inductive Shape where
  | point | vector | color
deriving DecidableEq, Repr

/-- The kind of value that a shape reads as. -/
def Shape.kind : Shape → Kind
  | point => .point
  | vector => .vector
  | color => .color

/-- What stands between an opening character at the start and a closing one at the end. -/
def enclosed (opening closing : Char) : Chars → Option Chars
  | [] => none
  | c :: r => if c = opening ∧ r.getLast? = some closing then some r.dropLast else none

theorem enclosed_append (opening closing : Char) (t : Chars) :
    enclosed opening closing (opening :: (t ++ [closing])) = some t := by
  simp [enclosed]

theorem eq_of_enclosed {opening closing : Char} {t inner : Chars}
    (h : enclosed opening closing t = some inner) : t = opening :: (inner ++ [closing]) := by
  cases t with
  | nil => simp [enclosed] at h
  | cons c r =>
    simp only [enclosed, Option.ite_none_right_eq_some, Option.some.injEq] at h
    obtain ⟨⟨rfl, hl⟩, rfl⟩ := h
    obtain ⟨ys, rfl⟩ := List.getLast?_eq_some_iff.1 hl
    simp

/-- What stands between the parentheses after the keyword `RGB`. -/
def colorInner : Chars → Option Chars
  | r :: g :: b :: rest =>
    if [r, g, b].map Char.toUpper = ['R', 'G', 'B'] then
      enclosed '(' ')' (rest.dropWhile Chars.isBlank)
    else none
  | _ => none

/-- The shape of a trimmed text and what it encloses. -/
def shape? (t : Chars) : Option (Shape × Chars) :=
  ((enclosed '[' ']' t).map (Shape.point, ·)) <|>
  ((enclosed '<' '>' t).map (Shape.vector, ·)) <|>
  ((colorInner t).map (Shape.color, ·))

/-- The trimmed parts between the commas. -/
def components (inner : Chars) : List Chars := (Chars.splitOn ',' inner).map Chars.trim

/-- A coordinate of a point or vector. -/
def coordinate (s : Shape) (literal part : Chars) : Except Refusal Binary64 :=
  match Numeral.number? part with
  | some x => .ok x
  | none => .error (.component s.kind.name part literal)

/-- A channel of a color: a whole number of at most `digitLimit` digits. -/
def channel (literal part : Chars) : Except Refusal Int :=
  match WholeNumeral.read? part with
  | some n =>
    if n.digits.length ≤ digitLimit then .ok n.toInt else .error (.digits n.digits.length)
  | none => .error (.component Kind.color.name part literal)

/-- The value of a shape with three components. -/
def build (s : Shape) (literal a b c : Chars) : Except Refusal Value :=
  match s with
  | .color => do
    let r ← channel literal a
    let g ← channel literal b
    let b ← channel literal c
    return .color r g b
  | .point => do
    let x ← coordinate s literal a
    let y ← coordinate s literal b
    let z ← coordinate s literal c
    return .point x y z
  | .vector => do
    let x ← coordinate s literal a
    let y ← coordinate s literal b
    let z ← coordinate s literal c
    return .vector x y z

/-- The value of a text that has a shape. -/
def readShape (s : Shape) (literal inner : Chars) : Except Refusal Value :=
  match components inner with
  | [a, b, c] => build s literal a b c
  | _ => .error (.count s.kind.name 3 literal)

/-- The truth value that a word names, in any case. No character beyond ASCII has one of
the letters of the two words as its small letter. -/
def truth? (t : Chars) : Option Bool :=
  let w := t.map Char.toLower
  if w = "true".toList then some true
  else if w = "false".toList then some false
  else none

/-- The value of a trimmed text that has no shape. -/
def readPlain (t : Chars) : Value :=
  match enclosed '"' '"' t, truth? t, Numeral.number? t with
  | some inner, _, _ => .text inner
  | none, some b, _ => .boolean b
  | none, none, some x => .number x
  | none, none, none => .text t

/-- The value of a text. -/
def read (t : Chars) : Except Refusal Value :=
  let s := Chars.trim t
  match shape? s with
  | some (sh, inner) => readShape sh s inner
  | none => .ok (readPlain s)

/-- Whether a text is a numeral, blanks around it aside. -/
def isNumber (t : Chars) : Bool := Numeral.isNumeral (Chars.trim t)

/-- The number that a text is, blanks around it aside. -/
def number? (t : Chars) : Option Binary64 := Numeral.number? (Chars.trim t)

/-- What is said of a text that is no number. -/
def notANumber (t : Chars) : Chars := "not a number: " ++ Chars.quoted (Chars.trim t)

end Literal
end DraftScript
