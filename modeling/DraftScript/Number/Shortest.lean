/-
# The shortest decimal that reads back

A finite number is written with the fewest significant digits whose reading is the
number again. For a count `n` of digits only the two neighbours of the number on the
grid of `n`-digit decimals can qualify, so they are tried in turn for 1, 2, … 17
digits; when both neighbours read back the nearer is taken, and of two equally near
the one with an even last digit. Each candidate is read by `Binary64.ofDecimal`
itself, so what is written reads back because it was read. The exact expansion stands
behind the last count.
-/

import DraftScript.Number.Binary64

namespace DraftScript

-- Powers are those of the core library, whichever other instance is in scope.
attribute [local instance (high)] instPowNat

/-- The decimal number `digits · 10^exponent`. -/
structure Decimal where
  digits : Nat
  exponent : Int
deriving DecidableEq, Repr

namespace Decimal

/-- The rational number that a decimal denotes. -/
def toRat (d : Decimal) : Rat := (d.digits : Rat) * (10 : Rat) ^ d.exponent

/-- The binary64 number nearest to a decimal. -/
def toBinary64 (negative : Bool) (d : Decimal) : Binary64 :=
  Binary64.ofDecimal negative d.digits d.exponent

/-- The exact expansion of `m · 2^e`: a negative power of two is a power of five over a
power of ten. -/
def exact (m : Nat) (e : Int) : Decimal :=
  if 0 ≤ e then ⟨m * 2 ^ e.toNat, 0⟩ else ⟨m * 5 ^ (-e).toNat, e⟩

/-- The place `p` of the decimal point of `q > 0`, where `10^(p-1) ≤ q < 10^p`. -/
def pointPlace (q : Rat) : Int :=
  if 1 ≤ q then (Nat.toDigits 10 q.floor.toNat).length
  else 1 - (Nat.toDigits 10 q⁻¹.floor.toNat).length

/-- Whether a decimal reads as `m · 2^e`. -/
def readsAs (m : Nat) (e : Int) (d : Decimal) : Bool :=
  match d.toBinary64 false with
  | .finite false m' e' _ => m' == m && e' == e
  | _ => false

/-- The neighbour of `m · 2^e` on the grid of multiples of `10^g` that reads back, if
one does. -/
def onGrid (m : Nat) (e g : Int) : Option Decimal :=
  let q := Binary64.magnitude m e / (10 : Rat) ^ g
  let low := q.floor.toNat
  let below : Decimal := ⟨low, g⟩
  let above : Decimal := ⟨low + 1, g⟩
  let rest := 2 * (q - low)
  match readsAs m e below, readsAs m e above with
  | true, true =>
    some (if rest < 1 then below else if 1 < rest then above
      else if low % 2 = 0 then below else above)
  | true, false => some below
  | false, true => some above
  | false, false => none

/-- The shortest decimal that reads as `m · 2^e`, the nearest of those. -/
def shortest (m : Nat) (e : Int) : Decimal :=
  let p := pointPlace (Binary64.magnitude m e)
  ((List.range 17).findSome? fun (i : Nat) => onGrid m e (p - i - 1)).getD (exact m e)

end Decimal
end DraftScript
