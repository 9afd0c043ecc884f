/-
# Scalars by their tags

The text of a scalar is read as its tag says. Of a number underscores do not count:

| whole number | value |
| --- | --- |
| `0b1010`, `0x1F`, `017` | to base two, sixteen, eight |
| `1:30:00` | to base sixty |
| anything else | decimal, of at most `digitLimit` digits |

A number with a point is read as decimal, or to base sixty in the arithmetic of binary64.
The texts that a tag is put before need not look like what they are read as, so there are
more ways to write a number than plain scalars have, and texts that cannot be read.
-/

import DraftScript.Number.Numeral
import DraftScript.Settings.Datum
import DraftScript.Settings.Yaml.Base64
import DraftScript.Settings.Yaml.Fault
import DraftScript.Settings.Yaml.Tag

namespace DraftScript
namespace Yaml

/-- A text without blank characters around it; of an ASCII text only ASCII blanks go. -/
def trimmed (t : Chars) : Chars :=
  if t.all fun c => c.toNat < 128 then
    Chars.dropEndWhile Chars.isAsciiBlank (t.dropWhile Chars.isAsciiBlank)
  else Chars.trim t

/-- The value of a digit of a base, of any script if it is a decimal digit. -/
def anyDigit? (base : Nat) (c : Char) : Option Nat :=
  ((Chars.digitValue c).filter (· < base)).or (digit? base c)

/-- The letters that tell a base after a zero. -/
def baseLetters (base : Nat) : List Char :=
  if base = 16 then ['x', 'X'] else if base = 8 then ['o', 'O']
  else if base = 2 then ['b', 'B'] else []

/-- The text after a zero and the letter of its base, if they begin it. -/
def withoutBase (base : Nat) : Chars → Chars
  | '0' :: c :: r => if c ∈ baseLetters base then r else '0' :: c :: r
  | t => t

/-- The whole number that a text is to a base. -/
def wholeTo (base : Nat) (t : Chars) : Read Int :=
  let s := Numeral.readSign (trimmed t)
  let u := withoutBase base s.2
  let ds := (u.takeWhile fun c => (anyDigit? base c).isSome).filterMap (anyDigit? base)
  if base = 10 ∧ digitLimit < ds.length then .error (.digits ds.length)
  else if ds = [] ∨ ds.length < u.length then .error (.whole base t)
  else
    let n : Int := (ds.foldl (fun n d => base * n + d) 0 : Nat)
    .ok (if s.1 then -n else n)

/-- A text without its underscores. -/
def withoutUnderscores (t : Chars) : Chars := t.filter (· != '_')

/-- The whole number that a scalar is. -/
def whole (t : Chars) : Read Int := do
  let t := withoutUnderscores t
  if t = [] then throw .empty
  let s := Numeral.readSign t
  let n ← match s.2 with
    | [] => throw .empty
    | ['0'] => pure 0
    | '0' :: 'b' :: r => wholeTo 2 r
    | '0' :: 'x' :: r => wholeTo 16 r
    | '0' :: r => wholeTo 8 ('0' :: r)
    | u =>
      if ':' ∈ u then do
        let parts ← (Chars.splitOn ':' u).mapM (wholeTo 10)
        pure (parts.foldl (fun n d => 60 * n + d) 0)
      else wholeTo 10 u
  return if s.1 then -n else n

/-- The number that a text is: a numeral, an infinity or no number. -/
def realOf (t : Chars) : Read Binary64 :=
  let u := trimmed t
  let s := Numeral.readSign u
  let w := s.2.map Char.toLower
  match Numeral.number? u with
  | some x => .ok x
  | none =>
    if w = "inf".toList ∨ w = "infinity".toList then .ok (.infinity s.1)
    else if w = "nan".toList then .ok .nan
    else .error (.real t)

/-- The sum of parts to base sixty, the first of them counting `base`. -/
def sixty (sum : Binary64) (base : Nat) : List Binary64 → Read Binary64
  | [] => .ok sum
  | d :: ds =>
    let b := Binary64.ofInt base
    if b.isFinite then sixty (sum.add (d.mul b)) (60 * base) ds else .error .realSize

/-- The number with a point that a scalar is. -/
def real (t : Chars) : Read Binary64 := do
  let t := (withoutUnderscores t).map Char.toLower
  if t = [] then throw .empty
  let s := Numeral.readSign t
  let x ← if s.2 = ".inf".toList then pure (.infinity false)
    else if s.2 = ".nan".toList then return .nan
    else if ':' ∈ s.2 then do
      let parts ← (Chars.splitOn ':' s.2).mapM realOf
      sixty (.zero false) 1 parts.reverse
    else realOf s.2
  return if s.1 then x.neg else x

/-- The truth value that a scalar is, in any case. -/
def truth (t : Chars) : Read Bool :=
  let w := t.map Char.toLower
  match truthWords.lookup w with
  | some b => .ok b
  | none => .error (.truth w)

/-- The day or moment that a scalar is. -/
def moment (t : Chars) : Read DraftScript.Scalar :=
  match Stamp.read? (withoutFeed t) with
  | none => .error .noMoment
  | some (.date d) => (d.check.map .date).mapError .calendar
  | some (.moment m) => (m.check.map .moment).mapError .calendar

/-- The scalar that a text is by a tag, `none` for tags of other nodes. -/
def scalar? (tag : Tag) (t : Chars) : Option (Read DraftScript.Scalar) :=
  match tag with
  | .null => some (.ok .null)
  | .truth => some ((truth t).map .truth)
  | .whole => some ((whole t).map .whole)
  | .real => some ((real t).map .real)
  | .bytes => some ((orForm (Base64.bytes? t)).map .bytes)
  | .moment => some (moment t)
  | .text => some (.ok (.text t))
  | _ => none

example : (whole "-0x_1F").toOption = some (-31) := by decide +kernel
example : (whole "1:30").toOption = some 90 := by decide +kernel
example : (whole "0b_").toOption = none := by decide +kernel
example : (real "1:8.21").toOption.map (·.describe) = some "68.21000000000001".toList := by
  decide +kernel

end Yaml
end DraftScript
