/-
# Scalars of a YAML document

A scalar is written plainly, between quotes, or as a block of lines after `|` or `>`.

| form | line breaks | escapes |
| --- | --- | --- |
| plain, outside of brackets only as deep as the block around it | one is a blank, more are one less | |
| `'…'` | likewise | `''` |
| `"…"` | likewise | backslashes |
| `|` | kept | |
| `>` | likewise, except beside lines that begin with a blank | |

How a block ends is said by `-`, which drops its last break, and `+`, which keeps all.
-/

import DraftScript.Settings.Yaml.Cell
import DraftScript.Settings.Yaml.Fault

namespace DraftScript
namespace Yaml

/-- The gap inside a plain scalar: its text, `none` before a separator of documents; the
rest; and whether it held a line break. -/
def plainGap (cs : List Cell) : Option Chars × List Cell × Bool :=
  let (blanks, r) := span (· == ' ') cs
  match r with
  | [] => (some blanks, r, false)
  | c :: r' =>
    if isBreak c.char then
      let rec more : List Cell → Chars → Option Chars × List Cell
        | [], acc => (some acc, [])
        | d :: s, acc =>
          if d.char == ' ' then more s acc
          else if isBreak d.char then
            if isSeparator s then (none, s) else more s (acc ++ [breakText d.char])
          else (some acc, d :: s)
      if isSeparator r' then (none, r', true)
      else
        let (breaks, rest) := more r' []
        let first := breakText c.char
        (breaks.map fun bs =>
          (if first ≠ '\n' then [first] else if bs = [] then [' '] else []) ++ bs, rest, true)
    else (some blanks, r, false)

/-- The run of a plain scalar without gaps. -/
def plainRun (inFlow : Bool) : List Cell → Chars × List Cell
  | [] => ([], [])
  | c :: r =>
    let next := peek r
    if isGap c.char || (c.char == ':' && (isGap next || (inFlow && next ∈ ",[]\x7b\x7d".toList))) ||
        (inFlow && c.char ∈ ",?[]\x7b\x7d".toList) then ([], c :: r)
    else let p := plainRun inFlow r; (c.char :: p.1, p.2)

/-- A plain scalar of at most `n` runs after a gap: its text, the rest, and whether the
last gap held a line break, as `broken` says of the gap before. -/
def plainText (inFlow : Bool) (indent : Int) :
    Nat → Chars → Bool → List Cell → Chars × List Cell × Bool
  | 0, _, broken, cs => ([], cs, broken)
  | n + 1, gap, broken, cs =>
    match plainRun inFlow cs with
    | ([], r) => ([], r, broken)
    | (run, r) =>
      match plainGap r with
      | (none, r', b) => (gap ++ run, r', b)
      | (some g, r', b) =>
        if g = [] ∨ peek r' == '#' ∨ (¬ inFlow ∧ (column r' : Int) ≤ indent) then
          (gap ++ run, r', b)
        else
          let (t, rest, b') := plainText inFlow indent n g b r'
          (gap ++ run ++ t, rest, b')

/-- The character of a short escape. -/
def escapeChar? (c : Char) : Option Char :=
  ([('0', 0), ('a', 7), ('b', 8), ('t', 9), ('\t', 9), ('n', 10), ('v', 11), ('f', 12), ('r', 13),
    ('e', 27), (' ', 32), ('"', 34), ('\\', 92), ('/', 47), ('N', 0x85), ('_', 0xA0),
    ('L', 0x2028), ('P', 0x2029)].lookup c).map Char.ofNat

/-- How many hexadecimal digits an escape has. -/
def escapeLength? (c : Char) : Option Nat := [('x', 2), ('u', 4), ('U', 8)].lookup c

/-- The breaks and blanks at the starts of lines inside quotes: the text of the breaks,
and the rest; `none` at a separator of documents. -/
def quotedBreaks : Nat → List Cell → Option (Chars × List Cell)
  | 0, cs => some ([], cs)
  | n + 1, cs =>
    if isSeparator cs then none
    else
      let (_, r) := span (fun c => c == ' ' || c == '\t') cs
      match r with
      | c :: r' =>
        if isBreak c.char then (quotedBreaks n r').map fun p => (breakText c.char :: p.1, p.2)
        else some ([], r)
      | [] => some ([], [])

/-- The gap inside quotes. -/
def quotedGap (cs : List Cell) : Option (Chars × List Cell) :=
  let (blanks, r) := span (fun c => c == ' ' || c == '\t') cs
  match r with
  | [] => none
  | c :: r' =>
    if c.char == endMark then none
    else if isBreak c.char then
      (quotedBreaks r'.length r').map fun p =>
        let first := breakText c.char
        ((if first ≠ '\n' then [first] else if p.1 = [] then [' '] else []) ++ p.1, p.2)
    else some (blanks, r)

/-- The character of an escape with hexadecimal digits; too large a code is refused. -/
def escapeCode (length : Nat) (cs : List Cell) : Read Char :=
  let ds := (cs.take length).filterMap fun c => digit? 16 c.char
  let code := ds.foldl (fun n d => 16 * n + d) 0
  if ds.length ≠ length then .error .form
  else if 0x80000000 ≤ code then .error .characterSize
  else if 0x110000 ≤ code then .error .character
  else .ok (Chars.ofCode code)

/-- The text between quotes, taking at most `n` steps, and the rest. -/
def quotedText (double : Bool) : Nat → List Cell → Read (Chars × List Cell)
  | 0, _ => .error .form
  | _, [] => .error .form
  | n + 1, c :: r =>
    let q := if double then '"' else '\''
    let put := fun (t : Chars) (rest : List Cell) =>
      (quotedText double n rest).map fun p => (t ++ p.1, p.2)
    if c.char == q then
      if !double && peek r == '\'' then put ['\''] (r.drop 1) else .ok ([], r)
    else if double && c.char == '\\' then
      match r with
      | [] => .error .form
      | e :: r' =>
        match escapeChar? e.char, escapeLength? e.char with
        | some d, _ => put [d] r'
        | none, some k => (escapeCode k r').bind fun d => put [d] (r'.drop k)
        | none, none =>
          if isBreak e.char then (orForm (quotedBreaks r'.length r')).bind fun p => put p.1 p.2
          else .error .form
    else if isGap c.char then (orForm (quotedGap (c :: r))).bind fun p => put p.1 p.2
    else put [c.char] r

/-- How the breaks at the end of a block scalar are kept. -/
inductive Chomping where
  | strip | clip | keep
deriving DecidableEq, Repr

/-- A chomping indicator. -/
def chomping? (c : Char) : Option Chomping :=
  if c == '+' then some .keep else if c == '-' then some .strip else none

/-- An indentation indicator; zero is refused. -/
def increment? (c : Char) : Option Nat :=
  if '0' ≤ c ∧ c ≤ '9' then some (c.toNat - 48) else none

/-- The indicators of a block scalar: chomping, indentation, and the rest. -/
def blockHeader (cs : List Cell) : Option (Chomping × Option Nat × List Cell) :=
  let (chomp, inc, r) :=
    match chomping? (peek cs), increment? (peek cs) with
    | some k, _ => match increment? (peekAt 1 cs) with
      | some i => (k, some i, cs.drop 2)
      | none => (k, none, cs.drop 1)
    | none, some i => match chomping? (peekAt 1 cs) with
      | some k => (k, some i, cs.drop 2)
      | none => (.clip, some i, cs.drop 1)
    | none, none => (.clip, none, cs)
  if inc = some 0 ∨ ¬ (peek r == ' ' || peek r == endMark || isBreak (peek r)) then none
  else
    let r := skipBlanks r
    let r := if peek r == '#' then skipLine r else r
    if isBreak (peek r) then some (chomp, inc, r.drop 1)
    else if peek r == endMark then some (chomp, inc, r)
    else none

/-- The breaks before the first line of a block scalar, the deepest column on the way,
and the rest. -/
def blockIndentation (deepest : Nat) : List Cell → Chars × Nat × List Cell
  | [] => ([], deepest, [])
  | c :: r =>
    if c.char == ' ' then blockIndentation (max deepest (c.column + 1)) r
    else if isBreak c.char then
      let p := blockIndentation deepest r
      (breakText c.char :: p.1, p.2)
    else ([], deepest, c :: r)

/-- The breaks between lines of a block scalar, and the rest. -/
def blockBreaks (indent : Nat) : List Cell → Chars × List Cell
  | [] => ([], [])
  | c :: r =>
    if c.column < indent && c.char == ' ' then blockBreaks indent r
    else if isBreak c.char then let p := blockBreaks indent r; (breakText c.char :: p.1, p.2)
    else ([], c :: r)

/-- The lines of a block scalar: the text without the last break, that break, the breaks
after it, and the rest. -/
def blockLines (folded : Bool) (indent : Nat) :
    Nat → Chars → List Cell → Chars × Chars × Chars × List Cell
  | 0, breaks, cs => ([], [], breaks, cs)
  | n + 1, breaks, cs =>
    if column cs ≠ indent ∨ peek cs == endMark then ([], [], breaks, cs)
    else
      let plainStart := !(peek cs == ' ' || peek cs == '\t')
      let (line, r) := span (fun c => c != endMark && !isBreak c) cs
      let ending : Chars := if isBreak (peek r) then [breakText (peek r)] else []
      let (breaks', r') := blockBreaks indent (if ending = [] then r else r.drop 1)
      if column r' = indent ∧ peek r' ≠ endMark then
        let joint : Chars :=
          if folded && ending == ['\n'] && plainStart && !(peek r' == ' ' || peek r' == '\t') then
            if breaks' = [] then [' '] else []
          else ending
        let (t, e, bs, rest) := blockLines folded indent n breaks' r'
        (breaks ++ line ++ joint ++ t, e, bs, rest)
      else (breaks ++ line, ending, breaks', r')

/-- A block scalar after its first indicator: its text and the rest. -/
def blockText (folded : Bool) (around : Int) (cs : List Cell) : Option (Chars × List Cell) :=
  (blockHeader cs).map fun (chomp, inc, r) =>
    let least := max 1 (around + 1).toNat
    let (breaks, indent, r) := match inc with
      | some i =>
        let indent := least + i - 1
        let (bs, r) := blockBreaks indent r
        (bs, indent, r)
      | none =>
        let (bs, deepest, r) := blockIndentation 0 r
        (bs, max least deepest, r)
    let (t, ending, bs, rest) := blockLines folded indent r.length breaks r
    let tail := match chomp with
      | .strip => []
      | .clip => ending
      | .keep => ending ++ bs
    (t ++ tail, rest)

end Yaml
end DraftScript
