/-
# Bytes written in base 64

Four characters of sixty-four stand for three bytes; one or two `=` fill up the last four.
Characters that stand for nothing are passed over. The text ends with its filling, if that
is complete, and what is left after whole bytes must be filled up.
-/

import DraftScript.Chars.Basic

namespace DraftScript
namespace Yaml
namespace Base64

/-- The value of a character. -/
def value? (c : Char) : Option Nat :=
  let n := c.toNat
  if 65 ≤ n ∧ n ≤ 90 then some (n - 65)
  else if 97 ≤ n ∧ n ≤ 122 then some (n - 71)
  else if 48 ≤ n ∧ n ≤ 57 then some (n + 4)
  else if c = '+' then some 62
  else if c = '/' then some 63
  else none

/-- Bytes from a place among four characters on, with the bits that are left over and the
filling so far; `none` if characters are left that are no whole bytes. -/
def bytesFrom (place left filling : Nat) : Chars → Option (List Nat)
  | [] => if place = 0 then some [] else none
  | c :: r =>
    if c = '=' then
      if 2 ≤ place ∧ 4 ≤ place + filling + 1 then some []
      else bytesFrom place left (if 2 ≤ place then filling + 1 else filling) r
    else
      match value? c with
      | none => bytesFrom place left filling r
      | some v =>
        match place with
        | 0 => bytesFrom 1 v 0 r
        | 1 => (bytesFrom 2 (v % 16) 0 r).map ((left * 4 + v / 16) :: ·)
        | 2 => (bytesFrom 3 (v % 4) 0 r).map ((left * 16 + v / 4) :: ·)
        | _ => (bytesFrom 0 0 0 r).map ((left * 64 + v) :: ·)

/-- The bytes of a text. -/
def bytes? (t : Chars) : Option (List Nat) :=
  if t.all fun c => c.toNat < 128 then bytesFrom 0 0 0 t else none

example : bytes? "aGVsbG8=" = some [104, 101, 108, 108, 111] := by decide +kernel
example : bytes? "aGVsbG8" = none := by decide +kernel

end Base64
end Yaml
end DraftScript
