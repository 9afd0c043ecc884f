/-
# Width rules

A field of a template may carry a rule for the width of its text:

    [[fill] align] [0] [width] [.precision] [s]

The text is cut to `precision` characters, then filled up to `width` on the right for
`<` (also without an alignment), on the left for `>`, on both sides for `^`, where an odd
character goes to the right. A leading zero of the width makes zero the fill. Signs,
separators and other types are for numbers and refused.
-/

import DraftScript.Chars.Digit
import DraftScript.Template.Fault

namespace DraftScript

/-- Where the text of a field stands within its width. -/
inductive Alignment where
  | left | right | centre
deriving DecidableEq, Repr

/-- A rule for the width of a text. -/
structure Width where
  fill : Char := ' '
  alignment : Alignment := .left
  width : Option Nat := none
  precision : Option Nat := none
deriving DecidableEq, Repr

namespace Width

/-- Whether a character is an alignment; the last is for numbers. -/
def isAlignment (c : Char) : Bool := c == '<' || c == '>' || c == '^' || c == '='

/-- The greatest whole number of a rule, `2^63 - 1`. -/
def numberLimit : Nat := 0x7fffffffffffffff

/-- The fill, the alignment and the rest of a rule. -/
def readAlignment : Chars → Option Char × Option Char × Chars
  | f :: a :: r =>
    if isAlignment a then (some f, some a, r)
    else if isAlignment f then (none, some f, a :: r)
    else (none, none, f :: a :: r)
  | [a] => if isAlignment a then (none, some a, []) else (none, none, [a])
  | [] => (none, none, [])

/-- Takes one of some characters from the start of a text. -/
def take? (cs : List Char) : Chars → Option Char × Chars
  | c :: r => if c ∈ cs then (some c, r) else (none, c :: r)
  | [] => (none, [])

/-- The whole number that begins a text, if one does. -/
def readNumber (t : Chars) : Except Malformed (Option Nat × Chars) :=
  match Chars.readDigits t with
  | ([], r) => .ok (none, r)
  | (ds, r) =>
    if Chars.ofDigits ds ≤ numberLimit then .ok (some (Chars.ofDigits ds), r)
    else .error .tooManyDigits

/-- The separators of thousands that begin a text: none, a comma or an underscore. -/
def readSeparator (t : Chars) : Except Malformed (Option Char × Chars) :=
  match take? [','] t with
  | (some c, r) => match take? ['_'] r with
    | (some _, _) => .error .bothSeparators
    | (none, r') => .ok (some c, r')
  | (none, r) => match take? ['_'] r with
    | (some c, r') => if r'.head? = some ',' then .error .bothSeparators else .ok (some c, r')
    | (none, r') => .ok (none, r')

/-- The precision after a point that begins a text, if one does. -/
def readPrecision : Chars → Except Malformed (Option Nat × Chars)
  | '.' :: r =>
    match readNumber r with
    | .ok (none, _) => .error .noPrecision
    | p => p
  | r => .ok (none, r)

/-- The types of numbers that a separator of thousands may go with; one of them is the
character of code zero. -/
def separatorTypes (c : Char) : List Char :=
  Char.ofNat 0 :: if c = '_' then "deEfFgG%boxX".toList else "deEfFgG%".toList

/-- The type that ends a rule, checked against a separator of thousands. -/
def readType (rule : Chars) (separator : Option Char) : Chars → Except Malformed Char
  | _ :: _ :: _ => .error (.rule rule)
  | r =>
    let type := r.headD 's'
    match separator with
    | some c => if type ∈ separatorTypes c then .ok type else .error (.separator c type)
    | none => .ok type

/-- The alignment that a character of a rule stands for. -/
def alignmentOf : Option Char → Alignment
  | some '>' => .right
  | some '^' => .centre
  | _ => .left

/-- The width rule of a text. -/
def read (rule : Chars) : Except Malformed Width := do
  let (fill, align, r) := readAlignment rule
  let (sign, r) := take? [' ', '+', '-'] r
  let (z, r) := take? ['z'] r
  let (hash, r) := take? ['#'] r
  let (zero, r) := if fill.isNone then take? ['0'] r else (none, r)
  let (width, r) ← readNumber r
  let (separator, r) ← readSeparator r
  let (precision, r) ← readPrecision r
  let type ← readType rule separator r
  if type ≠ 's' then throw (.typeCode type)
  match sign with
  | some ' ' => throw .blankSign
  | some _ => throw .sign
  | none => pure ()
  if z.isSome then throw .unsignedZero
  if hash.isSome then throw .alternate
  if align = some '=' then throw .afterSign
  return { fill := (fill <|> zero).getD ' ', alignment := alignmentOf align, width, precision }

/-- The text cut and filled up. -/
def apply (w : Width) (t : Chars) : Chars :=
  let cut := match w.precision with
    | some n => t.take n
    | none => t
  let missing := w.width.getD 0 - cut.length
  match w.alignment with
  | .left => cut ++ List.replicate missing w.fill
  | .right => List.replicate missing w.fill ++ cut
  | .centre =>
    List.replicate (missing / 2) w.fill ++ cut ++ List.replicate (missing - missing / 2) w.fill

/-- The text under a rule; no rule leaves it as it is. -/
def format (rule t : Chars) : Except Malformed Chars :=
  if rule = [] then .ok t else (read rule).map (·.apply t)

example : (format ">6" "abc").toOption = some "   abc".toList := by decide +kernel
example : (format "*^6.2" "abc").toOption = some "**ab**".toList := by decide +kernel
example : (format "05" "abc").toOption = some "abc00".toList := by decide +kernel
example : (format "+5" "abc").toOption = none := by decide +kernel

end Width
end DraftScript
