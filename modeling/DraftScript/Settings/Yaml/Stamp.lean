/-
# Time stamps

A day, or a moment of a day, is written

    2001-12-14
    2001-12-14 21:59:43.10 -5:30

with `T`, `t`, blanks or tabs between day and hour, month, day and hour of one digit if
wanted, a fraction of a second of which six digits count, and at the end the distance from
universal time, `Z` for none. A plain scalar is a day only with all ten characters.
-/

import DraftScript.Settings.Yaml.Cell
import DraftScript.Settings.Calendar

namespace DraftScript
namespace Yaml

/-- A day or a moment as it is written. -/
inductive Stamp where
  | date (d : Date)
  | moment (m : Moment)
deriving DecidableEq, Repr

namespace Stamp

/-- The number that digits denote. -/
def number (t : Chars) : Nat := (t.filterMap (digit? 10)).foldl (fun n d => 10 * n + d) 0

/-- The number of `least` to `most` digits that begin a text, and the rest. -/
def digits? (least most : Nat) (t : Chars) : Option (Nat × Chars) :=
  let ds := (t.take most).takeWhile fun c => (digit? 10 c).isSome
  if least ≤ ds.length then some (number ds, t.drop ds.length) else none

/-- The text after a character. -/
def after? (c : Char) : Chars → Option Chars
  | d :: r => if d = c then some r else none
  | [] => none

/-- The text after what separates day and hour. -/
def gap? : Chars → Option Chars
  | 'T' :: r | 't' :: r => some r
  | r =>
    match r.dropWhile fun c => c = ' ' ∨ c = '\t' with
    | s => if s.length < r.length then some s else none

/-- The microseconds of a fraction that begins a text, and the rest. -/
def fraction : Chars → Nat × Chars
  | '.' :: r =>
    let ds := r.takeWhile fun c => (digit? 10 c).isSome
    (number ((ds ++ List.replicate 6 '0').take 6), r.drop ds.length)
  | r => (0, r)

/-- The distance from universal time that a text is, in minutes. -/
def ahead? (t : Chars) : Option (Option Int) :=
  match t.dropWhile fun c => c = ' ' ∨ c = '\t' with
  | [] => if t = [] then some none else none
  | ['Z'] => some (some 0)
  | c :: r => do
    if c ≠ '+' ∧ c ≠ '-' then none
    let (h, r) ← digits? 1 2 r
    let m ← match r with
      | [] => some 0
      | _ => do
        let (m, r) ← digits? 2 2 (← after? ':' r)
        if r = [] then some m else none
    let n : Int := h * 60 + m
    return some (if c = '-' then -n else n)

/-- The stamp that a text is. -/
def read? (t : Chars) : Option Stamp := do
  let (year, r) ← digits? 4 4 t
  let (month, r) ← digits? 1 2 (← after? '-' r)
  let (day, r) ← digits? 1 2 (← after? '-' r)
  if r = [] then return .date ⟨year, month, day⟩
  let (hour, r) ← digits? 1 2 (← gap? r)
  let (minute, r) ← digits? 2 2 (← after? ':' r)
  let (second, r) ← digits? 2 2 (← after? ':' r)
  let (micro, r) := fraction r
  return .moment ⟨⟨year, month, day⟩, hour, minute, second, micro, ← ahead? r⟩

/-- Whether a plain scalar is a stamp. -/
def isPlain (t : Chars) : Bool :=
  match read? t with
  | some (.date _) => t.length == 10
  | some (.moment _) => true
  | none => false

example : read? "2001-12-14t21:59:43.10-05:00" =
    some (.moment ⟨⟨2001, 12, 14⟩, 21, 59, 43, 100000, some (-300)⟩) := by decide +kernel
example : read? "2001-1-2" = some (.date ⟨2001, 1, 2⟩) := by decide +kernel
example : isPlain "2001-1-2" = false := by decide +kernel

end Stamp
end Yaml
end DraftScript
