/-
# Values of parameters

A value is of one of six kinds. Its literal is the text that stands for it in a script:

| kind | literal |
| --- | --- |
| number | `2.5`, compact |
| text | the characters between double quotes, nothing escaped |
| boolean | `true`, `false` |
| point | `[x, y, z]` |
| vector | `<x, y, z>` |
| color | `RGB(r, g, b)` |

The channels of a color are whole numbers of any length, but only as many digits are written
as the limit allows.
-/

import DraftScript.Number.Length
import DraftScript.Number.Text

namespace DraftScript

/-- The kinds of values. -/
inductive Kind where
  | number | text | boolean | point | vector | color
deriving DecidableEq, Repr

namespace Kind

/-- All kinds. -/
def all : List Kind := [.number, .text, .boolean, .point, .vector, .color]

/-- The name of a kind in messages and descriptions. -/
def name : Kind → Chars
  | number => "number"
  | text => "text"
  | boolean => "boolean"
  | point => "point"
  | vector => "vector"
  | color => "color"

/-- The kind of a name. -/
def ofName? (n : Chars) : Option Kind := all.find? fun k => k.name = n

end Kind

/-- A value. -/
inductive Value where
  | number (x : Binary64)
  | text (t : Chars)
  | boolean (b : Bool)
  | point (x y z : Binary64)
  | vector (x y z : Binary64)
  | color (r g b : Int)
deriving DecidableEq

namespace Value

/-- The kind of a value. -/
def kind : Value → Kind
  | number _ => .number
  | text _ => .text
  | boolean _ => .boolean
  | point .. => .point
  | vector .. => .vector
  | color .. => .color

/-- The text of a truth value. -/
def truthText (b : Bool) : Chars := if b then "true" else "false"

/-- Three components, separated by commas. -/
def triple (a b c : Chars) : Chars := a ++ ", " ++ b ++ ", " ++ c

/-- The literal of a value. -/
def literal : Value → Chars
  | number x => x.compact
  | text t => "\"" ++ t ++ "\""
  | boolean b => truthText b
  | point x y z => "[" ++ triple x.compact y.compact z.compact ++ "]"
  | vector x y z => "<" ++ triple x.compact y.compact z.compact ++ ">"
  | color r g b => "RGB(" ++ triple (Chars.ofInt r) (Chars.ofInt g) (Chars.ofInt b) ++ ")"

/-- Whether a value can be written. -/
def isWritable : Value → Bool
  | color r g b => DraftScript.isWritable r && DraftScript.isWritable g && DraftScript.isWritable b
  | _ => true

/-- Equality of values: of one kind, and equal part by part, numbers as numbers. -/
def same : Value → Value → Bool
  | number x, number y => x.same y
  | text s, text t => s == t
  | boolean a, boolean b => a == b
  | point x y z, point x' y' z' => x.same x' && y.same y' && z.same z'
  | vector x y z, vector x' y' z' => x.same x' && y.same y' && z.same z'
  | color r g b, color r' g' b' => r == r' && g == g' && b == b'
  | _, _ => false

end Value
end DraftScript
