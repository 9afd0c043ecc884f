/-
# Days and moments

A setting may be a day of the calendar, or a moment of a day, which may say how far its
clock is ahead of universal time.

| datum | text | inside a list or mapping |
| --- | --- | --- |
| day | `2001-12-14` | `datetime.date(2001, 12, 14)` |
| moment | `2001-12-14 21:59:43` | `datetime.datetime(2001, 12, 14, 21, 59, 43)` |
| with a distance | `2001-12-14 21:59:43+00:00` | …, `tzinfo=datetime.timezone.utc` |

A fraction of a second is shown with six digits. Years are those from 1 to 9999, and a
distance is less than a day. Of several faults the distance is told first, then the others
from the year to the second.
-/

import DraftScript.Chars.Basic

namespace DraftScript

/-- A day of the calendar. -/
structure Date where
  year : Nat
  month : Nat
  day : Nat
deriving DecidableEq, Repr

/-- A moment of a day; `ahead` is the distance of its clock in minutes. -/
structure Moment where
  date : Date
  hour : Nat
  minute : Nat
  second : Nat
  micro : Nat := 0
  ahead : Option Int := none
deriving DecidableEq, Repr

/-- What is wrong with a day or a moment. -/
inductive CalendarFault where
  | year (n : Nat)
  | month | day | hour | minute | second
  | ahead (minutes : Int)
deriving DecidableEq, Repr

namespace Calendar

/-- A number with zeros before it up to a width. -/
def padded (width n : Nat) : Chars :=
  let ds := Chars.ofNat n
  List.replicate (width - ds.length) '0' ++ ds

/-- Whether a year has a leap day. -/
def isLeap (y : Nat) : Bool := (y % 4 == 0 && y % 100 != 0) || y % 400 == 0

/-- The number of days of a month, zero if there is no such month. -/
def daysIn (y m : Nat) : Nat :=
  if m = 2 then if isLeap y then 29 else 28
  else [0, 31, 28, 31, 30, 31, 30, 31, 31, 30, 31, 30, 31].getD m 0

/-- The number of days of the months before a month. -/
def daysBefore (y m : Nat) : Nat := (List.range m).foldl (fun n k => n + daysIn y k) 0

/-- A length of time in minutes, as whole days and the seconds of the rest, which are
never negative. -/
def lengthText (minutes : Int) : Chars :=
  let days := minutes.fdiv 1440
  let seconds := minutes.fmod 1440 * 60
  let parts : List Chars :=
    (if days = 0 then [] else ["days=" ++ Chars.ofInt days]) ++
      if seconds = 0 then [] else ["seconds=" ++ Chars.ofInt seconds]
  "datetime.timedelta(" ++ ", ".toList.intercalate parts ++ ")"

end Calendar

/-- What a fault says. -/
def CalendarFault.message : CalendarFault → Chars
  | year n => "year " ++ Chars.ofNat n ++ " is out of range"
  | month => "month must be in 1..12"
  | day => "day is out of range for month"
  | hour => "hour must be in 0..23"
  | minute => "minute must be in 0..59"
  | second => "second must be in 0..59"
  | ahead m =>
    "offset must be a timedelta strictly between -timedelta(hours=24) and " ++
      "timedelta(hours=24), not " ++ Calendar.lengthText m ++ "."

namespace Date

open Calendar (padded)

/-- The day itself, if there is such a day. -/
def check (d : Date) : Except CalendarFault Date :=
  if d.year < 1 ∨ 9999 < d.year then .error (.year d.year)
  else if d.month < 1 ∨ 12 < d.month then .error .month
  else if d.day < 1 ∨ Calendar.daysIn d.year d.month < d.day then .error .day
  else .ok d

/-- The number of a day, counted from the first day of the year 1. -/
def ordinal (d : Date) : Nat :=
  let y := d.year - 1
  365 * y + y / 4 - y / 100 + y / 400 + Calendar.daysBefore d.year d.month + d.day

/-- The text of a day. -/
def text (d : Date) : Chars :=
  padded 4 d.year ++ "-" ++ padded 2 d.month ++ "-" ++ padded 2 d.day

/-- The parts of a day, separated by commas. -/
def parts (d : Date) : List Chars := [d.year, d.month, d.day].map Chars.ofNat

/-- The description of a day inside a list or mapping. -/
def inner (d : Date) : Chars := "datetime.date(" ++ ", ".toList.intercalate d.parts ++ ")"

end Date

namespace Moment

open Calendar (padded)

/-- The moment itself, if there is such a moment. -/
def check (m : Moment) : Except CalendarFault Moment := do
  match m.ahead with
  | some a => if a ≤ -1440 ∨ 1440 ≤ a then throw (.ahead a)
  | none => pure ()
  discard m.date.check
  if 23 < m.hour then throw .hour
  if 59 < m.minute then throw .minute
  if 59 < m.second then throw .second
  return m

/-- Seconds of universal time, of a clock that is ahead by some minutes. -/
def instant (m : Moment) (ahead : Int) : Int :=
  m.date.ordinal * 86400 + m.hour * 3600 + m.minute * 60 + m.second - ahead * 60

/-- Whether two moments are the same: in universal time if both know it. -/
def same (a b : Moment) : Bool :=
  match a.ahead, b.ahead with
  | some x, some y => a.instant x == b.instant y && a.micro == b.micro
  | none, none => a == b
  | _, _ => false

/-- The text of a distance from universal time. -/
def aheadText (minutes : Int) : Chars :=
  let n := minutes.natAbs
  (if minutes < 0 then '-' else '+') :: padded 2 (n / 60) ++ ":" ++ padded 2 (n % 60)

/-- The text of a moment. -/
def text (m : Moment) : Chars :=
  let fraction : Chars := if m.micro = 0 then [] else "." ++ padded 6 m.micro
  m.date.text ++ " " ++ padded 2 m.hour ++ ":" ++ padded 2 m.minute ++ ":" ++
    padded 2 m.second ++ fraction ++ (m.ahead.map aheadText).getD []

/-- The description of a distance from universal time. -/
def aheadInner (minutes : Int) : Chars :=
  if minutes = 0 then "datetime.timezone.utc"
  else "datetime.timezone(" ++ Calendar.lengthText minutes ++ ")"

/-- The description of a moment inside a list or mapping. -/
def inner (m : Moment) : Chars :=
  let seconds :=
    if m.micro ≠ 0 then [m.second, m.micro] else if m.second ≠ 0 then [m.second] else []
  let numbers := [m.hour, m.minute] ++ seconds
  let ahead := (m.ahead.map fun a => "tzinfo=" ++ aheadInner a).toList
  "datetime.datetime(" ++
    ", ".toList.intercalate (m.date.parts ++ numbers.map Chars.ofNat ++ ahead) ++ ")"

example : (⟨⟨2001, 12, 14⟩, 21, 59, 43, 100000, some (-300)⟩ : Moment).text =
    "2001-12-14 21:59:43.100000-05:00" := by decide +kernel
example : (⟨2001, 2, 29⟩ : Date).check.toOption = none := by decide +kernel

end Moment
end DraftScript
