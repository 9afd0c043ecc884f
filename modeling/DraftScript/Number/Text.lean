/-
# How numbers are written

A number is written positionally while its leading digit stands at `10^-4` to `10^15`,
always with a point and at least one digit on each side of it; beyond that with one
leading digit and a power of ten whose exponent has a sign and at least two digits.
These bounds are the one record `Layout.plain`.

| number | `describe` | `compact` |
| --- | --- | --- |
| five | `5.0` | `5` |
| a quarter | `0.25` | `0.25` |
| minus zero | `-0.0` | `0` |
| `10^16` | `1e+16` | `1e+16` |
| `10^-5` | `1e-05` | `1e-05` |
| infinity, not a number | `inf`, `nan` | `inf`, `nan` |

The `compact` text, used in literals and in generated code, drops the fraction of a
whole number below `10^16`.
-/

import DraftScript.Chars.Basic
import DraftScript.Number.Shortest

namespace DraftScript

-- Powers are those of the core library, whichever other instance is in scope.
attribute [local instance (high)] instPowNat

/-- The decimal exponents of a leading digit that is written positionally, and the least
number of digits of a written exponent. -/
structure Layout where
  least : Int
  greatest : Int
  exponentDigits : Nat

/-- The layout of every number in this library. -/
def Layout.plain : Layout := ⟨-4, 15, 2⟩

namespace Decimal

/-- The significant digits, without zeros at the end. -/
def significant (d : Decimal) : Chars :=
  Chars.dropEndWhile (· = '0') (Nat.toDigits 10 d.digits)

/-- The decimal exponent of the leading digit. -/
def leading (d : Decimal) : Int := (Nat.toDigits 10 d.digits).length + d.exponent - 1

/-- Digits with the point after the first `leading + 1` of them, zeros filling up. -/
def positional (ds : Chars) (leading : Int) : Chars :=
  if leading < 0 then
    "0." ++ List.replicate (-leading - 1).toNat '0' ++ ds
  else
    let n := (leading + 1).toNat
    if ds.length ≤ n then ds ++ List.replicate (n - ds.length) '0' ++ ".0"
    else ds.take n ++ "." ++ ds.drop n

/-- One digit before the point, the others after it, and the exponent. -/
def scientific (width : Nat) (ds : Chars) (leading : Int) : Chars :=
  let fraction : Chars := if ds.length ≤ 1 then [] else '.' :: ds.drop 1
  let e := Chars.ofNat leading.natAbs
  ds.take 1 ++ fraction ++ ['e', if leading < 0 then '-' else '+'] ++
    List.replicate (width - e.length) '0' ++ e

/-- A decimal other than zero in a layout. -/
def text (l : Layout) (d : Decimal) : Chars :=
  if l.least ≤ d.leading ∧ d.leading ≤ l.greatest then positional d.significant d.leading
  else scientific l.exponentDigits d.significant d.leading

end Decimal

namespace Binary64

/-- The text of a number: the shortest decimal that reads back. -/
def describe : Binary64 → Chars
  | .nan => "nan"
  | .infinity negative => if negative then "-inf" else "inf"
  | .finite negative m e _ =>
    let t : Chars := if m = 0 then "0.0" else (Decimal.shortest m e).text Layout.plain
    if negative then '-' :: t else t

/-- The text of a number in literals and generated code: a whole number below `10^16`
has no fraction and zero has no sign. -/
def compact (x : Binary64) : Chars :=
  match x.toInt? with
  | some n => if n.natAbs < 10 ^ (16 : Nat) then Chars.ofInt n else x.describe
  | none => x.describe

example : (ofDecimal false 25 (-1)).compact = "2.5" := by decide +kernel
example : (ofDecimal false 5 0).describe = "5.0" := by decide +kernel
example : (ofDecimal false 1 16).compact = "1e+16" := by decide +kernel
example : (ofDecimal false 1 (-5)).compact = "1e-05" := by decide +kernel
example : (zero true).compact = "0" := by decide +kernel

end Binary64
end DraftScript
