/-
# Tokens of a YAML document

A document is cut into tokens: brackets, commas and dashes, the indicators of keys and
values, names, tags, and scalars with their text. In block style nesting is shown by
columns, which become tokens too: a collection begins where a first entry stands deeper
than what is around it, and ends where a line stands less deep.

A scalar, bracket, name or tag may turn out to begin a key only when the colon after it is
reached; until then its place is kept, and the key token is put there. A key must stand on
one line, in at most 1024 characters. Tabs do not indent.

Where no token can be read the list ends with the fault. The grammar meets it there unless
something is wrong before; but what may still turn out to be a key is not seen by the
grammar, so then it meets the fault already at that place.
-/

import DraftScript.Settings.Yaml.Mark
import DraftScript.Settings.Yaml.Text

namespace DraftScript
namespace Yaml

/-- A token. -/
inductive Token where
  | directive (d : Directive)
  | documentStart | documentEnd
  | blockSequence | blockMapping | blockEnd
  | flowSequence | flowSequenceEnd | flowMapping | flowMappingEnd
  | blockEntry | flowEntry
  | key | value
  | anchor (name : Chars)
  | reference (name : Chars)
  | tag (handle : Option Chars) (suffix : Chars)
  | scalar (isPlain : Bool) (text : Chars)
  | fault (f : Fault)
deriving DecidableEq, Repr

/-- A place that may turn out to be a key. -/
structure Candidate where
  token : Nat
  required : Bool
  line : Nat
  column : Nat
  index : Nat

/-- What is known between two tokens: those seen, the last one first, and more. Columns count
from `-1`, outside of all blocks. -/
structure Scan where
  seen : List Token := []
  count : Nat := 0
  indent : Int := -1
  around : List Int := []
  flow : Nat := 0
  keyAllowed : Bool := true
  candidates : List (Nat × Candidate) := []

namespace Scan

/-- Adds a token. -/
def push (s : Scan) (t : Token) : Scan := { s with seen := t :: s.seen, count := s.count + 1 }

/-- The tokens in order, followed by more. -/
def tokensThen (s : Scan) (more : List Token) : List Token := s.seen.reverseAux more

/-- The candidate of the present level. -/
def candidate? (s : Scan) : Option Candidate := s.candidates.lookup s.flow

/-- Drops the candidate of the present level, unless a key is required there. -/
def dropCandidate (s : Scan) : Option Scan :=
  match s.candidate? with
  | some k =>
    if k.required then none
    else some { s with candidates := s.candidates.filter fun p => p.1 ≠ s.flow }
  | none => some s

/-- Drops the candidates that can no longer be keys, unless one is required. -/
def dropStale (s : Scan) (here : Cell) : Option Scan :=
  let isStale := fun (k : Candidate) => k.line ≠ here.line || here.index - k.index > 1024
  if s.candidates.any fun p => isStale p.2 && p.2.required then none
  else some { s with candidates := s.candidates.filter fun p => !isStale p.2 }

/-- Notes that a key may begin here. -/
def saveCandidate (s : Scan) (here : Cell) : Option Scan :=
  if s.keyAllowed then do
    let s ← s.dropCandidate
    let k : Candidate :=
      { token := s.count, required := s.flow = 0 ∧ s.indent = here.column
        line := here.line, column := here.column, index := here.index }
    return { s with candidates := (s.flow, k) :: s.candidates }
  else some s

/-- Ends the blocks that stand deeper than a column. -/
def unwindTo (col : Int) : Nat → Scan → Scan
  | 0, s => s
  | n + 1, s =>
    if col < s.indent then
      unwindTo col n
        { s.push .blockEnd with indent := s.around.headD (-1), around := s.around.tail }
    else s

/-- Ends the blocks that stand deeper than a column, outside brackets. -/
def unwind (s : Scan) (col : Int) : Scan :=
  if s.flow = 0 then unwindTo col (s.around.length + 1) s else s

/-- Goes to a deeper column, and whether it is deeper. -/
def deepen (s : Scan) (col : Nat) : Scan × Bool :=
  if s.indent < col then ({ s with indent := col, around := s.indent :: s.around }, true)
  else (s, false)

/-- Adds a token at a place. -/
def insert (s : Scan) (i : Nat) (t : Token) : Scan :=
  let later := s.count - i
  { s with seen := s.seen.take later ++ t :: s.seen.drop later, count := s.count + 1 }

/-- Adds an opening bracket. -/
def openFlow (s : Scan) (here : Cell) (t : Token) : Option Scan := do
  let s ← s.saveCandidate here
  return { s.push t with flow := s.flow + 1, keyAllowed := true }

/-- Adds a closing bracket. -/
def closeFlow (s : Scan) (t : Token) : Option Scan := do
  let s ← s.dropCandidate
  return { s.push t with flow := s.flow - 1, keyAllowed := false }

/-- Adds a token that may begin a block collection at its column. -/
def blockToken (s : Scan) (here : Cell) (collection t : Token) (keyAfter : Bool) :
    Option Scan := do
  if s.flow = 0 ∧ ¬ s.keyAllowed then none
  let s :=
    if s.flow = 0 then
      let (s', deeper) := s.deepen here.column
      if deeper then s'.push collection else s'
    else s
  let s ← { s with keyAllowed := keyAfter }.dropCandidate
  return s.push t

/-- Adds the indicator of a value, and of its key if that stands on the same line. -/
def valueToken (s : Scan) (here : Cell) : Option Scan :=
  match s.candidate? with
  | some k =>
    let s := { s with candidates := s.candidates.filter fun p => p.1 ≠ s.flow }
    let s := s.insert k.token .key
    let s :=
      if s.flow = 0 then
        let (s', deeper) := s.deepen k.column
        if deeper then s'.insert k.token .blockMapping else s'
      else s
    some { s.push .value with keyAllowed := false }
  | none => s.blockToken here .blockMapping .value (s.flow = 0)

/-- Adds a token that may begin a key. -/
def wordToken (s : Scan) (here : Cell) (keyAfter : Bool) (t : Token) : Option Scan := do
  let s ← s.saveCandidate here
  return { s.push t with keyAllowed := keyAfter }

/-- Adds a token at which all blocks end. -/
def outermost (s : Scan) (t : Token) : Option Scan := do
  let s ← (s.unwind (-1)).dropCandidate
  return { s.push t with keyAllowed := false }

/-- Whether a plain scalar may begin here. -/
def beginsPlain (inFlow : Bool) (cs : List Cell) : Bool :=
  let c := peek cs
  let next := peekAt 1 cs
  !(isGap c || c ∈ "-?:,[]\x7b\x7d#&*!|>'\"%@".toList || c == Char.ofNat 96) ||
    (!isGap next && (c == '-' || (!inFlow && (c == '?' || c == ':'))))

/-- Takes the token that begins here, in at most `n` steps: the scan after it and the rest. -/
def token (s : Scan) (n : Nat) (here : Cell) (r : List Cell) : Read (Scan × List Cell) :=
  let cs := here :: r
  let c := here.char
  let next := peek r
  let inFlow := decide (0 < s.flow)
  let one := fun (x : Option Scan) => (orForm x).map (·, r)
  let word := fun (x : Option (Token × List Cell)) => orForm do
    let (t, rest) ← x
    return (← s.wordToken here false t, rest)
  if c == '%' && here.column == 0 then orForm do
    let (d, rest) ← directive? r
    return (← s.outermost (.directive d), rest)
  else if here.column == 0 && isMarker '-' cs then
    (orForm (s.outermost .documentStart)).map (·, cs.drop 3)
  else if here.column == 0 && isMarker '.' cs then
    (orForm (s.outermost .documentEnd)).map (·, cs.drop 3)
  else if c == '[' then one (s.openFlow here .flowSequence)
  else if c == '\x7b' then one (s.openFlow here .flowMapping)
  else if c == ']' then one (s.closeFlow .flowSequenceEnd)
  else if c == '\x7d' then one (s.closeFlow .flowMappingEnd)
  else if c == ',' then
    one ((s.dropCandidate).map fun s => { s.push .flowEntry with keyAllowed := true })
  else if c == '-' && isGap next then one (s.blockToken here .blockSequence .blockEntry true)
  else if c == '?' && (inFlow || isGap next) then one (s.blockToken here .blockMapping .key !inFlow)
  else if c == ':' && (inFlow || isGap next) then one (s.valueToken here)
  else if c == '*' then word ((name? r).map fun p => (.reference p.1, p.2))
  else if c == '&' then word ((name? r).map fun p => (.anchor p.1, p.2))
  else if c == '!' then word ((tag? here r).map fun p => (.tag p.1.1 p.1.2, p.2))
  else if (c == '|' || c == '>') && !inFlow then orForm do
    let s ← { s with keyAllowed := true }.dropCandidate
    let (t, rest) ← blockText (c == '>') s.indent r
    return (s.push (.scalar false t), rest)
  else if c == '\'' || c == '"' then do
    let s ← orForm (s.saveCandidate here)
    let (t, rest) ← quotedText (c == '"') n r
    return ({ s.push (.scalar false t) with keyAllowed := false }, rest)
  else if beginsPlain inFlow cs then
    let (t, rest, b) := plainText inFlow s.indent n [] false cs
    (orForm (s.wordToken here b (.scalar true t))).map (·, rest)
  else .error .form

/-- The cells from the next token on, and whether a line ended before it. -/
def toToken (inComment : Bool) : List Cell → List Cell × Bool
  | [] => ([], false)
  | c :: r =>
    if isBreak c.char then ((toToken false r).1, true)
    else if c.char == endMark then (c :: r, false)
    else if inComment then toToken true r
    else if c.char == ' ' || (c.char == Char.ofNat 0xFEFF && c.index == 0) then toToken false r
    else if c.char == '#' then toToken true r
    else (c :: r, false)

/-- The tokens that are seen before a place, and the fault that is met there. -/
def stop (s : Scan) (cs : List Cell) (f : Fault) : List Token :=
  let here := cs.headD ⟨endMark, 0, 0, 0⟩
  match s.dropStale here with
  | none => s.tokensThen [.fault .form]
  | some s =>
    let sure := (s.candidates.map fun p => p.2.token).foldl min s.count
    (s.seen.drop (s.count - sure)).reverseAux [.fault f]

/-- All tokens, taking at most `n`. -/
def run : Nat → Scan → List Cell → List Token
  | 0, s, _ => s.tokensThen [.fault .form]
  | n + 1, s, cs =>
    let (next, broken) := toToken false cs
    match next with
    | [] => s.tokensThen [.fault .form]
    | here :: r =>
      let step : Read (Scan × List Cell) := do
        let s := if broken && s.flow == 0 then { s with keyAllowed := true } else s
        let s := (← orForm (s.dropStale here)).unwind here.column
        if here.char == endMark then return (← orForm (s.unwind (-1)).dropCandidate, [])
        else s.token n here r
      match step with
      | .error f => s.stop cs f
      | .ok (s, []) => s.tokensThen []
      | .ok (s, rest) => run n s rest

end Scan

/-- The tokens of a text. -/
def tokens (t : Chars) : List Token :=
  if t.all isAllowed then Scan.run (t.length + 2) {} (cells 0 0 0 t) else [.fault .form]

end Yaml
end DraftScript
