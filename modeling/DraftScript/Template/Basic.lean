/-
# Templates

A template is a text with fields in braces; doubled braces stand for single ones.

    {name}  {name.part}  {name!s}  {name:width rule}

A field shows a value, or one part of it: `text` for the whole, `x` `y` `z` for the
coordinates of a point or vector, `r` `g` `b` for the channels of a color. A width rule
may itself hold fields, but no further. What a field shows is copied and never read as a
template. A template is read from left to right, so the first cause, whether in the text
or in a value, is the one reported; what is malformed is a piece of its own at the place
where reading ends.
-/

import DraftScript.Template.View

namespace DraftScript
namespace Template

/-- A field: what stands before its width rule, how it is converted, and the rule. -/
structure Field where
  path : Chars
  conversion : Option Char
  rule : Chars
deriving DecidableEq, Repr

/-- A piece of a template. -/
inductive Piece where
  | char (c : Char)
  | field (f : Field)
  | malformed (m : Malformed)
deriving DecidableEq, Repr

/-! ## Reading -/

/-- The path of a field, the character that ends it, and the rest. Brackets hide braces,
colons and exclamation marks. -/
def readPath (inBrackets : Bool) : Chars → Except Malformed (Chars × Char × Chars)
  | [] => .error .unterminated
  | c :: r =>
    if inBrackets then (readPath (c != ']') r).map fun p => (c :: p.1, p.2)
    else if c = '\x7b' then .error .braceInName
    else if c = '\x7d' ∨ c = ':' ∨ c = '!' then .ok ([], c, r)
    else (readPath (c == '[') r).map fun p => (c :: p.1, p.2)

/-- The width rule up to the brace that closes its field, and the rest. -/
def readRule (depth : Nat) : Chars → Except Malformed (Chars × Chars)
  | [] => .error .unmatchedBrace
  | c :: r =>
    if c = '\x7d' then
      match depth with
      | 0 => .ok ([], r)
      | d + 1 => (readRule d r).map fun p => (c :: p.1, p.2)
    else (readRule (if c = '\x7b' then depth + 1 else depth) r).map fun p => (c :: p.1, p.2)

/-- The conversion after an exclamation mark, whether the field goes on with a width
rule, and the rest. -/
def readConversion : Chars → Except Malformed (Char × Bool × Chars)
  | [] => .error .conversionEnd
  | [c] => .ok (c, true, [])
  | c :: d :: r =>
    if d = '\x7d' then .ok (c, false, r)
    else if d = ':' then .ok (c, true, r)
    else .error .afterConversion

/-- The field after an opening brace, and the rest. -/
def readField (t : Chars) : Except Malformed (Field × Chars) := do
  let (path, stop, r) ← readPath false t
  if stop = '\x7d' then return (⟨path, none, []⟩, r)
  else if stop = ':' then
    let (rule, r) ← readRule 0 r
    return (⟨path, none, rule⟩, r)
  else
    let (c, more, r) ← readConversion r
    if more then
      let (rule, r) ← readRule 0 r
      return (⟨path, some c, rule⟩, r)
    else return (⟨path, some c, []⟩, r)

/-- The pieces of a template, reading at most `n` of them. -/
def readPieces : Nat → Chars → List Piece
  | 0, _ => []
  | _, [] => []
  | n + 1, c :: r =>
    if c = '\x7b' then
      match r with
      | [] => [.malformed .openingBrace]
      | d :: r' =>
        if d = '\x7b' then .char '\x7b' :: readPieces n r'
        else match readField (d :: r') with
          | .error m => [.malformed m]
          | .ok (f, rest) => .field f :: readPieces n rest
    else if c = '\x7d' then
      match r with
      | d :: r' =>
        if d = '\x7d' then .char '\x7d' :: readPieces n r' else [.malformed .closingBrace]
      | [] => [.malformed .closingBrace]
    else .char c :: readPieces n r

/-- The pieces of a template: each takes one character at least. -/
def read (t : Chars) : List Piece := readPieces t.length t

/-- The steps after the name of a field, each shorter than the text before it. -/
def readSteps : Nat → Chars → List Step
  | 0, _ => []
  | _, [] => []
  | n + 1, c :: r =>
    if c = '.' then
      let name := r.takeWhile fun c => c != '.' && c != '['
      if name = [] then [.malformed .emptyAttribute]
      else .attribute name :: readSteps n (r.drop name.length)
    else if c = '[' then
      match Chars.cutAt ']' r with
      | none => [.malformed .openBracket]
      | some (key, rest) =>
        if key = [] then [.malformed .emptyAttribute] else .item key :: readSteps n rest
    else [.malformed .afterBracket]

/-- The name that begins a path. -/
def pathName (p : Chars) : Chars := p.takeWhile fun c => c != '.' && c != '['

/-- The steps of a path. -/
def pathSteps (p : Chars) : List Step := readSteps p.length (p.drop (pathName p).length)

/-! ## Showing -/

section Showing

variable (address : Chars → Nat) (views : Assoc Chars View)

/-- The view that a name stands for. -/
def find (name : Chars) : Except RenderFault View :=
  if name = [] then .error (.position 0)
  else match index? name with
    | .error m => .error (.malformed m)
    | .ok (some i) => .error (.position i)
    | .ok none => match views.get? name with
      | some v => .ok v
      | none => .error (.missing name)

/-- What a path leads to. -/
def follow (path : Chars) : Except RenderFault Shown := do
  let v ← find views (pathName path)
  (pathSteps path).foldlM Shown.step (.view (address (pathName path)) v)

/-- The text with the characters beyond ASCII escaped. -/
def asciiOnly (t : Chars) : Chars :=
  t.flatMap fun c => if c.toNat < 128 then [c] else Chars.escape c

/-- What is shown after a conversion, which makes a text of it; the character of code zero
asks for none. -/
def convert (conversion : Option Char) (s : Shown) : Except RenderFault Shown :=
  match conversion with
  | none => .ok s
  | some 's' => .ok (.text s.chars)
  | some 'r' => .ok (.text s.inspected)
  | some 'a' => .ok (.text (asciiOnly s.inspected))
  | some c => if c.toNat = 0 then .ok s else .error (.malformed (.conversion c))

/-- The text of a piece, given how the fields inside a width rule are shown. -/
def Piece.text (inner : Chars → Except RenderFault Chars) : Piece → Except RenderFault Chars
  | .char c => .ok [c]
  | .malformed m => .error (.malformed m)
  | .field f => do
    let s ← convert f.conversion (← follow address views f.path)
    let rule ← if '\x7b' ∈ f.rule then inner f.rule else .ok f.rule
    s.formatted rule

/-- The texts of the pieces, joined. -/
def showAll (inner : Chars → Except RenderFault Chars) : List Piece → Except RenderFault Chars
  | [] => .ok []
  | p :: ps => do
    let a ← p.text address views inner
    let b ← showAll inner ps
    return a ++ b

/-- The text of a template whose fields may nest to a depth. -/
def showTo : Nat → Chars → Except RenderFault Chars
  | 0, _ => .error (.malformed .tooDeep)
  | n + 1, t => showAll address views (showTo n) (read t)

/-- The text of a template: fields, and fields in their width rules. -/
def fill (t : Chars) : Except RenderFault Chars := showTo address views 2 t

end Showing

end Template
end DraftScript
