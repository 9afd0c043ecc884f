/-
# Plain decimal numerals

A numeral is an optional sign, digits with at most one point among or around them and
at least one digit, and an optional exponent:

    [+-] ( digits [ . [digits] ] | . digits ) [ (e|E) [+-] digits ]

Digits are the decimal digits of every script. There are no names for infinities, no
separators inside a numeral and no other bases.
-/

import DraftScript.Chars.Digit
import DraftScript.Number.Binary64

namespace DraftScript

/-- The parts of a numeral, digits as their values. -/
structure Numeral where
  negative : Bool
  whole : List Nat
  fraction : List Nat
  exponent : Int
deriving DecidableEq, Repr

namespace Numeral

/-- An optional sign, true for minus, and the text after it. -/
def readSign : Chars → Bool × Chars
  | '+' :: r => (false, r)
  | '-' :: r => (true, r)
  | r => (false, r)

/-- The digits before and after the point, and the text after them; one digit at least. -/
def readMantissa (t : Chars) : Option ((List Nat × List Nat) × Chars) :=
  match Chars.readDigits t with
  | ([], '.' :: r) =>
    match Chars.readDigits r with
    | ([], _) => none
    | (f, r') => some (([], f), r')
  | ([], _) => none
  | (w, '.' :: r) => let p := Chars.readDigits r; some ((w, p.1), p.2)
  | (w, r) => some ((w, []), r)

/-- The exponent that ends a numeral, zero for no text. -/
def readExponent : Chars → Option Int
  | [] => some 0
  | c :: r =>
    if c = 'e' ∨ c = 'E' then
      let s := readSign r
      match Chars.readDigits s.2 with
      | ([], _) => none
      | (ds, []) => some (if s.1 then -(Chars.ofDigits ds : Int) else Chars.ofDigits ds)
      | (_, _ :: _) => none
    else none

/-- The numeral that a whole text is. -/
def read? (t : Chars) : Option Numeral :=
  let s := readSign t
  match readMantissa s.2 with
  | none => none
  | some ((w, f), r) => (readExponent r).map fun e => ⟨s.1, w, f, e⟩

/-- The digits of the numeral as one whole number. -/
def digits (n : Numeral) : Nat := Chars.ofDigits (n.whole ++ n.fraction)

/-- The power of ten that the digits are scaled by. -/
def scale (n : Numeral) : Int := n.exponent - n.fraction.length

/-- The rational number that the numeral denotes, without its sign. -/
def magnitude (n : Numeral) : Rat := (n.digits : Rat) * (10 : Rat) ^ n.scale

/-- The binary64 number nearest to what the numeral denotes. -/
def toBinary64 (n : Numeral) : Binary64 :=
  Binary64.ofDecimal n.negative n.digits n.scale

/-- Whether a text without blanks around it is a numeral. -/
def isNumeral (t : Chars) : Bool := (read? t).isSome

/-- The number that a numeral denotes. -/
def number? (t : Chars) : Option Binary64 := (read? t).map toBinary64

end Numeral

/-- A sign and a row of digits: a whole number as it stands in a literal. -/
structure WholeNumeral where
  negative : Bool
  digits : List Nat
deriving DecidableEq, Repr

namespace WholeNumeral

/-- The whole numeral that a whole text is. -/
def read? (t : Chars) : Option WholeNumeral :=
  let s := Numeral.readSign t
  match Chars.readDigits s.2 with
  | ([], _) => none
  | (ds, []) => some ⟨s.1, ds⟩
  | (_, _ :: _) => none

/-- The whole number that the numeral denotes. -/
def toInt (n : WholeNumeral) : Int :=
  if n.negative then -(Chars.ofDigits n.digits : Int) else Chars.ofDigits n.digits

end WholeNumeral

example : Numeral.number? "-2.50e1" = some (.ofInt (-25)) := by decide +kernel
example : Numeral.number? ".5" = Numeral.number? "5e-1" := by decide +kernel
example : Numeral.isNumeral "1." = true := by decide +kernel
example : Numeral.isNumeral "." = false := by decide +kernel
example : Numeral.isNumeral "1e" = false := by decide +kernel

end DraftScript
