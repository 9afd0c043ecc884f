/-
# What is too long or too deep to be written

A whole number is read from decimal digits, and written in them, only up to a limit:
either takes a time that grows faster than the number of digits. The sign does not count,
leading zeros do.

Data inside data are described only as deep as there is room for.
-/

import DraftScript.Chars.Basic

namespace DraftScript

-- Powers are those of the core library, whichever other instance is in scope.
attribute [local instance (high)] instPowNat

/-- How many decimal digits a whole number may have. -/
def digitLimit : Nat := 4300

/-- The beginning of what is said of a whole number beyond the limit. -/
def beyondLimit : Chars :=
  "Exceeds the limit (" ++ Chars.ofNat digitLimit ++ " digits) for integer string conversion"

/-- What is said of `n` digits that are not read. -/
def unreadable (n : Nat) : Chars :=
  beyondLimit ++ ": value has " ++ Chars.ofNat n ++
    " digits; use sys.set_int_max_str_digits() to increase the limit"

/-- What is said of a number that is not written. -/
def unwritable : Chars :=
  beyondLimit ++ "; use sys.set_int_max_str_digits() to increase the limit"

/-- Whether a number can be written. -/
def isWritable (n : Int) : Bool := n.natAbs < 10 ^ digitLimit

/-- Why data cannot be described. -/
inductive DescriptionFault where
  | unwritable
  | nested
deriving DecidableEq, Repr

/-- What is said of data that cannot be described. -/
def DescriptionFault.message : DescriptionFault → Chars
  | unwritable => DraftScript.unwritable
  | nested => "maximum recursion depth exceeded while getting the repr of an object"

end DraftScript
