/-
# Binary64 numbers

A finite number is `± m · 2^e` with a canonical pair: the significand `m` has its full
53 bits, or fewer at the least exponent. So two finite numbers of one sign are equal
exactly when they denote the same rational number. Beside the finite numbers there are
two infinities and one `nan`.

Every operation works on exact rational numbers and rounds once, to the nearest
number; a tie goes to the even significand, and what is too large becomes an infinity.

| operation | exact value that is rounded |
| --- | --- |
| `mul`, `divNat` | product, quotient |
| `add`, `sub` | sum, difference |
| `ofDecimal` | `d · 10^k` |
| `trunc` | the whole part, which needs no rounding |
-/

namespace DraftScript

-- Powers are those of the core library, whichever other instance is in scope.
attribute [local instance (high)] instPowNat

namespace Binary64

/-- The pairs that stand for finite numbers, one for each magnitude. -/
def Canonical (m : Nat) (e : Int) : Prop :=
  m < 2 ^ (53 : Nat) ∧ -1074 ≤ e ∧ e ≤ 971 ∧ (2 ^ (52 : Nat) ≤ m ∨ e = -1074)

instance (m : Nat) (e : Int) : Decidable (Canonical m e) := by
  unfold Canonical; infer_instance

end Binary64

/-- A binary64 number. -/
inductive Binary64 where
  | nan
  | infinity (negative : Bool)
  | finite (negative : Bool) (m : Nat) (e : Int) (canonical : Binary64.Canonical m e)
deriving DecidableEq

namespace Binary64

/-- Zero, of either sign. -/
def zero (negative : Bool) : Binary64 := .finite negative 0 (-1074) (by decide)

instance : Inhabited Binary64 := ⟨zero false⟩

/-- The rational number `m · 2^e`. -/
def magnitude (m : Nat) (e : Int) : Rat := (m : Rat) * (2 : Rat) ^ e

/-- The finite number of a canonical pair; any other pair is too large. -/
def ofPair (negative : Bool) (m : Nat) (e : Int) : Binary64 :=
  if h : Canonical m e then .finite negative m e h else .infinity negative

/-- The whole number nearest to `n / d`, the even one of two. -/
def roundHalfEven (n d : Nat) : Nat :=
  let f := n / d
  let r := n % d
  if 2 * r < d then f else if d < 2 * r then f + 1 else f + f % 2

/-- A multiple of the divisor is its own rounding. -/
theorem roundHalfEven_mul (m : Nat) {d : Nat} (h : 0 < d) : roundHalfEven (m * d) d = m := by
  simp [roundHalfEven, Nat.mul_div_cancel _ h, h]

/-- The magnitude of `q` in units of `2^e`, as a numerator and a denominator. -/
def units (q : Rat) (e : Int) : Nat × Nat :=
  (q.num.natAbs * 2 ^ (-e).toNat, q.den * 2 ^ e.toNat)

/-- The exponent at which the magnitude of `q` has 53 bits before the point, but not
less than the least exponent. -/
def exponentOf (q : Rat) : Int :=
  let e : Int := q.num.natAbs.log2 - q.den.log2 - 53
  let u := units q e
  max (-1074) (if u.1 / u.2 < 2 ^ (53 : Nat) then e else e + 1)

/-- The number nearest to the magnitude of `q`, with the given sign. -/
def round (negative : Bool) (q : Rat) : Binary64 :=
  if q = 0 then zero negative
  else
    let e := exponentOf q
    let u := units q e
    let m := roundHalfEven u.1 u.2
    if m < 2 ^ (53 : Nat) then ofPair negative m e else ofPair negative (m / 2) (e + 1)

/-- The number nearest to a rational number; zero is positive. -/
def ofRat (q : Rat) : Binary64 := round (q < 0) q

/-- The number nearest to a whole number. -/
def ofInt (n : Int) : Binary64 := ofRat n

/-- The number nearest to `± d · 10^k`. A `k` far outside the range of binary64 is
settled without building the power of ten: `d < 10 ^ (log2 d + 1)`. -/
def ofDecimal (negative : Bool) (d : Nat) (k : Int) : Binary64 :=
  if d = 0 then zero negative
  else if 400 < k then .infinity negative
  else if k < -(400 + d.log2 + 1) then zero negative
  else round negative ((d : Rat) * (10 : Rat) ^ k)

/-- The rational number that a finite number denotes. -/
def toRat? : Binary64 → Option Rat
  | .finite negative m e _ => some (if negative then -magnitude m e else magnitude m e)
  | _ => none

/-- Whether the number is neither an infinity nor `nan`. -/
def isFinite : Binary64 → Bool
  | .finite .. => true
  | _ => false

/-- Whether the number is a zero of either sign. -/
def isZero : Binary64 → Bool
  | .finite _ m _ _ => m == 0
  | _ => false

/-- The sign, true for minus. -/
def sign : Binary64 → Bool
  | .nan => false
  | .infinity s => s
  | .finite s .. => s

/-- Numeric equality: `nan` differs from all, and the two zeros are equal. -/
def same : Binary64 → Binary64 → Bool
  | .nan, _ => false
  | _, .nan => false
  | a, b => a = b || (a.isZero && b.isZero)

/-- Zero without its sign; any other number as it is. -/
def unsignZero (x : Binary64) : Binary64 := if x.isZero then zero false else x

/-- The whole part of a magnitude. -/
def floorPart (m : Nat) (e : Int) : Nat := m * 2 ^ e.toNat / 2 ^ (-e).toNat

/-- The whole part of a finite number, toward zero. -/
def wholePart? : Binary64 → Option Int
  | .finite negative m e _ => some (if negative then -(floorPart m e : Int) else floorPart m e)
  | _ => none

/-- The number without its fraction; a result of zero is positive. -/
def trunc (x : Binary64) : Option Binary64 := x.wholePart?.map ofInt

/-- The whole number that a finite number without fraction denotes. -/
def toInt? (x : Binary64) : Option Int :=
  match x with
  | .finite _ m e _ =>
    if m * 2 ^ e.toNat % 2 ^ (-e).toNat = 0 then x.wholePart? else none
  | _ => none

/-- Product. -/
def mul (a b : Binary64) : Binary64 :=
  let s := a.sign != b.sign
  match a, b with
  | .nan, _ | _, .nan => .nan
  | .infinity _, y => if y.isZero then .nan else .infinity s
  | x, .infinity _ => if x.isZero then .nan else .infinity s
  | .finite _ m e _, .finite _ n f _ => round s (magnitude m e * magnitude n f)

/-- Quotient by a positive whole number. -/
def divNat (a : Binary64) (d : Nat) : Binary64 :=
  match a with
  | .nan => .nan
  | .infinity s => .infinity s
  | .finite s m e _ => round s (magnitude m e / d)

/-- Difference; equal operands differ by `+0`, but `-0` less `+0` is `-0`. -/
def sub : Binary64 → Binary64 → Binary64
  | .nan, _ | _, .nan => .nan
  | .infinity s, .infinity t => if s = t then .nan else .infinity s
  | .infinity s, _ => .infinity s
  | _, .infinity t => .infinity (!t)
  | .finite s m e _, .finite t n f _ =>
    let x := if s then -magnitude m e else magnitude m e
    let y := if t then -magnitude n f else magnitude n f
    if x = y then zero (s && !t) else ofRat (x - y)

/-- The number with the other sign. -/
def neg : Binary64 → Binary64
  | .nan => .nan
  | .infinity s => .infinity (!s)
  | .finite s m e h => .finite (!s) m e h

/-- Sum. -/
def add (a b : Binary64) : Binary64 := a.sub b.neg

/-- The number nearest to the circle constant. -/
def pi : Binary64 := .finite false 7074237752028440 (-51) (by decide)

/-- An angle in degrees, as radians: rounded after the product and after the quotient. -/
def radians (x : Binary64) : Binary64 := (x.mul pi).divNat 180

example : ofDecimal false 5 (-1) = .finite false (2 ^ 52) (-53) (by decide) := by decide +kernel
example : ofDecimal false 1 309 = .infinity false := by decide +kernel
example : ofDecimal true 1 (-400) = zero true := by decide +kernel
example : ofDecimal false 5 (-324) = .finite false 1 (-1074) (by decide) := by decide +kernel

end Binary64
end DraftScript
