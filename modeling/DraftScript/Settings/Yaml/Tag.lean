/-
# Tags

A tag says how a node is to be read. A node that has none, or only `!`, is read by what it
is: a collection as a list or mapping, a quoted scalar as a text, and a plain scalar, or
one after `!`, by the first rule that fits:

| plain scalar | tag |
| --- | --- |
| `yes` `no` `on` `off` `true` `false`, in three cases | truth value |
| `1.5`, `1.5e+3`, `.5`, `1:30.5`, `.inf`, `.nan` | number |
| `12`, `0b1010`, `0x1F`, `017`, `1:30` | whole number |
| `<<`, `=` | merge, default |
| nothing, `~`, `null` in three cases | nothing |
| `2001-12-14`, `2001-12-14 21:59:43` | moment |
| anything else | text |

Underscores may stand after the first digit of a number, and anywhere after the prefix of
a base. An exponent needs its sign, and a number with an exponent needs a point. Digits are
ASCII. A line feed at the end of a scalar does not count.
-/

import DraftScript.Number.Numeral
import DraftScript.Settings.Yaml.Cell
import DraftScript.Settings.Yaml.Stamp

namespace DraftScript
namespace Yaml

/-- How a node is to be read. -/
inductive Tag where
  | null | truth | whole | real | bytes | moment | text
  | list | mapping | set | pairs | ordered
  | merge | default
  | other
deriving DecidableEq, Repr

/-- The URIs of tags. -/
def tagUris : List (Chars × Tag) :=
  [("null", .null), ("bool", .truth), ("int", .whole), ("float", .real), ("binary", .bytes),
    ("timestamp", .moment), ("str", .text), ("seq", .list), ("map", .mapping), ("set", .set),
    ("pairs", .pairs), ("omap", .ordered), ("merge", .merge), ("value", .default)].map
    fun p => ("tag:yaml.org,2002:".toList ++ p.1.toList, p.2)

/-- The tag of a URI. -/
def Tag.ofUri (u : Chars) : Tag := (tagUris.lookup u).getD .other

/-- Whether a text holds only digits of a base and underscores. -/
def isDigits (base : Nat) (t : Chars) : Bool := t.all fun c => (digit? base c).isSome || c == '_'

/-- Whether a text begins with a digit of a base and goes on with digits and underscores. -/
def isNumber (base : Nat) : Chars → Bool
  | [] => false
  | c :: r => (digit? base c).isSome && isDigits base r

/-- Whether a text is a part to base sixty: up to 59. -/
def isSixtieth : Chars → Bool
  | [a] => (digit? 10 a).isSome
  | [a, b] => (digit? 6 a).isSome && (digit? 10 b).isSome
  | _ => false

/-- Whether a scalar is a whole number. -/
def isWhole (t : Chars) : Bool :=
  match (Numeral.readSign t).2 with
  | ['0'] => true
  | '0' :: 'b' :: d :: r => isDigits 2 (d :: r)
  | '0' :: 'x' :: d :: r => isDigits 16 (d :: r)
  | '0' :: d :: r => isDigits 8 (d :: r)
  | u =>
    match Chars.splitOn ':' u with
    | p :: ps => isNumber 10 p && ps.all isSixtieth
    | [] => false

/-- Whether a text is an exponent, or nothing. -/
def isExponent : Chars → Bool
  | [] => true
  | e :: s :: d :: r =>
    (e == 'e' || e == 'E') && (s == '+' || s == '-') && (d :: r).all fun c => (digit? 10 c).isSome
  | _ => false

/-- Whether a text is a fraction, with an exponent if one may follow. -/
def isFraction (exponentToo : Bool) (t : Chars) : Bool :=
  let rest := t.dropWhile fun c => (digit? 10 c).isSome || c == '_'
  if exponentToo then isExponent rest else rest == []

/-- Whether a scalar is a number with a point. -/
def isReal (t : Chars) : Bool :=
  let u := (Numeral.readSign t).2
  if [".inf".toList, ".Inf".toList, ".INF".toList].contains u then true
  else if [".nan".toList, ".NaN".toList, ".NAN".toList].contains t then true
  else
    match Chars.cutAt '.' u with
    | none => false
    | some ([], rest) => u == t && isNumber 10 (rest.take 1) && isFraction true rest
    | some (whole, rest) =>
      match Chars.splitOn ':' whole with
      | [p] => isNumber 10 p && isFraction true rest
      | p :: ps => isNumber 10 p && ps.all isSixtieth && isFraction false rest
      | [] => false

/-- A word in small letters, with a capital, and in capitals. -/
def threeCases (w : String) : List Chars :=
  [w.toList, (w.toList.take 1).map Char.toUpper ++ w.toList.drop 1, w.toList.map Char.toUpper]

/-- The words that are truth values, in small letters. -/
def truthWords : List (Chars × Bool) :=
  [("yes", true), ("no", false), ("true", true), ("false", false), ("on", true), ("off", false)].map
    fun p => (p.1.toList, p.2)

/-- Whether a scalar is a truth value. -/
def isTruth (t : Chars) : Bool :=
  truthWords.any fun p => (threeCases (String.ofList p.1)).contains t

/-- Whether a scalar stands for nothing. -/
def isNothing (t : Chars) : Bool := t == [] || t == ['~'] || (threeCases "null").contains t

/-- A text without a line feed at its end, if something is left. -/
def withoutFeed (t : Chars) : Chars :=
  match t.reverse with
  | '\n' :: c :: r => (c :: r).reverse
  | _ => t

/-- The tag of a plain scalar. -/
def Tag.ofPlain (t : Chars) : Tag :=
  let u := withoutFeed t
  if isTruth u then .truth
  else if isReal u then .real
  else if isWhole u then .whole
  else if u = "<<".toList then .merge
  else if isNothing u then .null
  else if Stamp.isPlain u then .moment
  else if u = ['='] then .default
  else .text

example : Tag.ofPlain "on" = .truth := by decide +kernel
example : Tag.ofPlain "0x_" = .whole := by decide +kernel
example : Tag.ofPlain "1:30" = .whole := by decide +kernel
example : Tag.ofPlain "1e3" = .text := by decide +kernel
example : Tag.ofPlain "2.5" = .real := by decide +kernel
example : Tag.ofPlain "2001-12-14" = .moment := by decide +kernel

end Yaml
end DraftScript
