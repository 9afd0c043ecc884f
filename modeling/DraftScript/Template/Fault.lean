/-
# Why a block cannot be rendered

Five sorts of causes: the text of a template or of a width rule is malformed, a field asks
for something that the value does not have, a number is too long to be written, the header or
footer of a document is no text or nested too deep to be described, or a way of rendering that
is no template fails by itself. A field without a name counts as a position, and there are no
positions.
-/

import DraftScript.Chars.Quoted
import DraftScript.Number.Length
import DraftScript.Value

namespace DraftScript

/-- What is malformed in a template or in a rule for the width of a field. -/
inductive Malformed where
  | closingBrace | openingBrace | braceInName | unterminated | conversionEnd
  | afterConversion | unmatchedBrace | emptyAttribute | openBracket | afterBracket
  | tooManyDigits | tooDeep
  | conversion (c : Char)
  | noPrecision
  | rule (text : Chars)
  | separator (c type : Char)
  | bothSeparators
  | typeCode (c : Char)
  | blankSign | sign | unsignedZero | alternate | afterSign
deriving DecidableEq, Repr

namespace Malformed

/-- A character as messages show it: as it is if its code lies between the blank and an end. -/
def shownBelow (limit : Nat) (c : Char) : Chars :=
  if 32 < c.toNat ∧ c.toNat < limit then [c] else "\\x" ++ Nat.toDigits 16 (Chars.code c)

/-- A type as messages show it. -/
def shown (c : Char) : Chars := shownBelow 128 c

/-- What the cause says. -/
def message : Malformed → Chars
  | closingBrace => "Single '\x7d' encountered in format string"
  | openingBrace => "Single '\x7b' encountered in format string"
  | braceInName => "unexpected '\x7b' in field name"
  | unterminated => "expected '\x7d' before end of string"
  | conversionEnd => "end of string while looking for conversion specifier"
  | afterConversion => "expected ':' after conversion specifier"
  | unmatchedBrace => "unmatched '\x7b' in format spec"
  | emptyAttribute => "Empty attribute in format string"
  | openBracket => "Missing ']' in format string"
  | afterBracket => "Only '.' or '[' may follow ']' in format field specifier"
  | tooManyDigits => "Too many decimal digits in format string"
  | tooDeep => "Max string recursion exceeded"
  | conversion c => "Unknown conversion specifier " ++ shownBelow 127 c
  | noPrecision => "Format specifier missing precision"
  | rule t => "Invalid format specifier '" ++ t ++ "' for object of type 'str'"
  | separator c type => "Cannot specify '" ++ [c] ++ "' with '" ++ shown type ++ "'."
  | bothSeparators => "Cannot specify both ',' and '_'."
  | typeCode c => "Unknown format code '" ++ shown c ++ "' for object of type 'str'"
  | blankSign => "Space not allowed in string format specifier"
  | sign => "Sign not allowed in string format specifier"
  | unsignedZero => "Negative zero coercion (z) not allowed in string format specifier"
  | alternate => "Alternate form (#) not allowed in string format specifier"
  | afterSign => "'=' alignment not allowed in string format specifier"

end Malformed

/-- The sorts of what a field may stand for: a value as a whole, its view, a text, all the
texts of a view, nothing, or a sort itself. -/
inductive Holder where
  | value (k : Kind) | view | text | entries | nothing | sort
deriving DecidableEq, Repr

/-- The name of a holder in messages. -/
def Holder.name : Holder → Chars
  | value .number => "Number"
  | value .text => "Text"
  | value .boolean => "Boolean"
  | value .point => "Point"
  | value .vector => "Vector"
  | value .color => "Color"
  | view => "TemplateValue"
  | text => "str"
  | entries => "dict"
  | nothing => "NoneType"
  | sort => "type"

/-- The cause for which a block cannot be rendered. -/
inductive RenderFault where
  | malformed (m : Malformed)
  | noAttribute (holder : Holder) (name : Chars)
  | noSortAttribute (holder : Holder) (name : Chars)
  | noItems (holder : Holder)
  | noSortItems (holder : Holder)
  | noRule (holder : Holder)
  | noSuchItem
  | noIndex
  | position (n : Nat)
  | missing (name : Chars)
  | missingNumber (n : Nat)
  | textAsNumber
  | textAsFactor
  | unwritable
  | description (f : DescriptionFault)
  | headerType (typeName : Chars)
  | footerType (typeName : Chars)
  | custom (sort message : Chars)
deriving DecidableEq, Repr

namespace RenderFault

/-- What the cause says. -/
def message : RenderFault → Chars
  | malformed m => m.message
  | noAttribute h n => "'" ++ h.name ++ "' object has no attribute '" ++ n ++ "'"
  | noSortAttribute h n => "type object '" ++ h.name ++ "' has no attribute '" ++ n ++ "'"
  | noItems h => "'" ++ h.name ++ "' object is not subscriptable"
  | noSortItems h => "type '" ++ h.name ++ "' is not subscriptable"
  | noRule h => "unsupported format string passed to " ++ h.name ++ ".__format__"
  | noSuchItem => "string index out of range"
  | noIndex => "string indices must be integers, not 'str'"
  | position n =>
    "Replacement index " ++ Chars.ofNat n ++ " out of range for positional args tuple"
  | missing n => Chars.quoted n
  | missingNumber n => Chars.ofNat n
  | textAsNumber => "must be real number, not str"
  | textAsFactor => "can't multiply sequence by non-int of type 'float'"
  | unwritable => DraftScript.unwritable
  | description f => f.message
  | headerType n =>
    if n = "list".toList then "can only concatenate list (not \"str\") to list"
    else if n = "bytes".toList then "can't concat str to bytes"
    else "unsupported operand type(s) for +: '" ++ n ++ "' and 'str'"
  | footerType n => "can only concatenate str (not \"" ++ n ++ "\") to str"
  | custom _ t => t

end RenderFault

namespace Value

/-- What is made of a value by writing it, if it can be written. -/
def written {α : Type} (v : Value) (a : α) : Except RenderFault α :=
  if v.isWritable then .ok a else .error .unwritable

/-- The literal of a value, if it can be written. -/
def literal? (v : Value) : Except RenderFault Chars := v.written v.literal

end Value
end DraftScript
