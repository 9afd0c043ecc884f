/-
# Names, tags and directives

Before a node may stand a name, `&name`, under which it can stand again, `*name`, and a tag
that says how it is to be read:

| tag | stands for |
| --- | --- |
| `!` | itself |
| `!<uri>` | the URI |
| `!suffix`, `!!suffix`, `!handle!suffix` | what the handle stands for, and the suffix |

Directives are lines with `%` before the document: `%YAML` with the version, `%TAG` with a
handle and what it stands for, and others, which do not count.
-/

import DraftScript.Settings.Yaml.Cell
import DraftScript.Settings.Yaml.Fault

namespace DraftScript
namespace Yaml

/-- A directive: the first part of a version, a handle with what it stands for, or other. -/
inductive Directive where
  | version (major : Nat)
  | handle (name stands : Chars)
  | other
deriving DecidableEq, Repr

/-- Whether a character may stand in a name. -/
def isNameChar (c : Char) : Bool :=
  let n := c.toNat
  (48 ≤ n && n ≤ 57) || (65 ≤ n && n ≤ 90) || (97 ≤ n && n ≤ 122) || c == '-' || c == '_'

/-- The name after an anchor or alias indicator, and the rest. -/
def name? (cs : List Cell) : Option (Chars × List Cell) :=
  let (t, r) := span isNameChar cs
  let c := peek r
  if t ≠ [] ∧ (isGap c ∨ c ∈ ['?', ':', ',', ']', '\x7d', '%', '@', Char.ofNat 96]) then
    some (t, r)
  else none

/-- Whether a character may stand in the URI of a tag. -/
def isUriChar (c : Char) : Bool := isNameChar c || c ∈ ";/?:@&=+$,.!~*'()[]".toList

/-- The bytes of escapes `%` with two hexadecimal digits, at most `n`, and the rest. -/
def uriBytes : Nat → List Cell → Option (List UInt8 × List Cell)
  | 0, cs => some ([], cs)
  | n + 1, cs =>
    if peek cs == '%' then
      match digit? 16 (peekAt 1 cs), digit? 16 (peekAt 2 cs) with
      | some a, some b =>
        (uriBytes n (cs.drop 3)).map fun p => (UInt8.ofNat (16 * a + b) :: p.1, p.2)
      | _, _ => none
    else some ([], cs)

/-- The text of a URI in at most `n` steps, and the rest. Escapes are UTF-8. -/
def uri? : Nat → List Cell → Option (Chars × List Cell)
  | 0, cs => some ([], cs)
  | n + 1, cs =>
    if peek cs == '%' then do
      let (bs, r) ← uriBytes cs.length cs
      let t ← String.fromUTF8? ⟨bs.toArray⟩
      let (u, rest) ← uri? n r
      return (t.toList ++ u, rest)
    else
      match span isUriChar cs with
      | ([], r) => some ([], r)
      | (t, r) => (uri? n r).map fun p => (t ++ p.1, p.2)

/-- The text of a URI, which may not be empty, and the rest. -/
def wholeUri? (cs : List Cell) : Option (Chars × List Cell) :=
  let u := peek cs
  if isUriChar u || u == '%' then uri? cs.length cs else none

/-- The handle of a tag between exclamation marks, with them, and the rest. -/
def handle? (cs : List Cell) : Option (Chars × List Cell) :=
  if peek cs ≠ '!' then none
  else if peekAt 1 cs == ' ' then some (['!'], cs.drop 1)
  else
    let (t, r) := span isNameChar (cs.drop 1)
    if peek r == '!' then some ('!' :: t ++ ['!'], r.drop 1) else none

/-- Whether an exclamation mark stands before the end of a word. -/
def hasSecondMark (cs : List Cell) : Bool :=
  (cs.takeWhile fun c => !isEnd c.char).any fun c => c.char == '!'

/-- The tag whose exclamation mark is before the cells: the handle, if it has one, the
suffix, and the rest. -/
def tag? (here : Cell) (cs : List Cell) : Option ((Option Chars × Chars) × List Cell) := do
  let (value, r) ←
    if peek cs == '<' then do
      let (u, r) ← wholeUri? (cs.drop 1)
      if peek r ≠ '>' then none
      pure ((none, u), r.drop 1)
    else if isGap (peek cs) then some ((none, ['!']), cs)
    else if hasSecondMark cs then do
      let (h, r) ← handle? (here :: cs)
      let (u, r) ← wholeUri? r
      pure ((some h, u), r)
    else do
      let (u, r) ← wholeUri? cs
      pure ((some ['!'], u), r)
  if isEnd (peek r) then some (value, r) else none

/-- A number of a version, and the rest. -/
def versionNumber? (cs : List Cell) : Option (Nat × List Cell) :=
  match span (fun c => (digit? 10 c).isSome) cs with
  | ([], _) => none
  | (t, r) => some ((t.filterMap (digit? 10)).foldl (fun n d => 10 * n + d) 0, r)

/-- The directive after its percent sign, and the rest from the end of its line. -/
def directive? (cs : List Cell) : Option (Directive × List Cell) := do
  let (t, r) := span isNameChar cs
  if t = [] ∨ ¬ isEnd (peek r) then none
  let (d, r) ←
    if t = "YAML".toList then do
      let (major, r) ← versionNumber? (skipBlanks r)
      if peek r ≠ '.' then none
      let (_, r) ← versionNumber? (r.drop 1)
      if !isEnd (peek r) then none
      pure (.version major, r)
    else if t = "TAG".toList then do
      let (h, r) ← handle? (skipBlanks r)
      if peek r ≠ ' ' then none
      let (u, r) ← wholeUri? (skipBlanks r)
      if !isEnd (peek r) then none
      pure (.handle h u, r)
    else some (.other, skipLine r)
  let r := skipBlanks r
  let r := if peek r == '#' then skipLine r else r
  if peek r == endMark || isBreak (peek r) then some (d, r) else none

end Yaml
end DraftScript
