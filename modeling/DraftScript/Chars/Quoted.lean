/-
# Texts shown between quotes

Messages show a text between single quotes, or between double quotes when it holds a
single quote and no double one. Inside, the chosen quote and the backslash take a
backslash, and an unprintable character is an escape:

| character | written |
| --- | --- |
| line feed, carriage return, tab | `\n`, `\r`, `\t` |
| below `U+0100` | `\x` and two hexadecimal digits |
| below `U+10000` | `\u` and four |
| any other | `\U` and eight |
-/

import DraftScript.Chars.Printable

namespace DraftScript
namespace Chars

/-- The lower-case hexadecimal digits of `n`, at least `width` of them. -/
def hex (width n : Nat) : Chars :=
  let ds := Nat.toDigits 16 n
  List.replicate (width - ds.length) '0' ++ ds

/-- The escape of an unprintable character. -/
def escape (c : Char) : Chars :=
  let n := code c
  if n < 0x100 then "\\x" ++ hex 2 n
  else if n < 0x10000 then "\\u" ++ hex 4 n
  else "\\U" ++ hex 8 n

/-- One character between quotes `q`. -/
def quotedChar (q c : Char) : Chars :=
  if c = q ∨ c = '\\' then ['\\', c]
  else if c = '\n' then "\\n"
  else if c = '\r' then "\\r"
  else if c = '\t' then "\\t"
  else if isPrintable c then [c]
  else escape c

/-- The quote that surrounds a text. -/
def quoteFor (t : Chars) : Char :=
  if '\'' ∈ t ∧ '"' ∉ t then '"' else '\''

/-- A text between quotes. -/
def quoted (t : Chars) : Chars :=
  let q := quoteFor t
  q :: t.flatMap (quotedChar q) ++ [q]

example : quoted "a\tb" = "'a\\tb'" := by decide +kernel
example : quoted "it's" = "\"it's\"" := by decide +kernel
example : quoted "'\"" = "'\\'\"'" := by decide +kernel

end Chars
end DraftScript
