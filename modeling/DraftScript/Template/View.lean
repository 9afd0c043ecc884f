/-
# What templates show

A view shows a value: the text of the whole, and of its named parts. A path leads from a
view in steps, each to an attribute or to an item of what was reached before.

| reached | attributes | items |
| --- | --- | --- |
| a view | `text`, its parts, `__dict__`, `__weakref__` | none |
| a text | none | its characters, by number |
| all parts (`__dict__`) | none | the texts, by name |
| a sort (`__class__`) | `__name__`, `__qualname__`, `__module__` | none |
| nothing (`__weakref__`) | none | none |

Whatever is reached has a sort, and all but nothing have a description, `__doc__`. A view as a
whole is shown for inspection by the address where it lies.
-/

import DraftScript.Assoc
import DraftScript.Template.Width

namespace DraftScript

/-- What a template shows of a value: the text of the whole and of its named parts. -/
structure View where
  text : Chars
  parts : Assoc Chars Chars := []
deriving DecidableEq, Repr

namespace View

/-- A view of three named parts. -/
def ofTriple (a b c : Chars) (x y z : Chars) : View :=
  { text := Value.triple x y z, parts := [(a, x), (b, y), (c, z)] }

/-- The texts of a view by name, the whole first. -/
def entries (v : View) : Assoc Chars Chars := ("text".toList, v.text) :: v.parts

/-- The text that describes all texts of a view. -/
def entriesText (v : View) : Chars :=
  "\x7b" ++ ", ".toList.intercalate
    (v.entries.map fun p => Chars.quoted p.1 ++ ": " ++ Chars.quoted p.2) ++ "\x7d"

end View

/-- The texts of a value and of its parts. -/
def Value.display : Value → View
  | .number x => { text := x.compact }
  | .text t => { text := t }
  | .boolean b => { text := truthText b }
  | .point x y z | .vector x y z => .ofTriple "x" "y" "z" x.compact y.compact z.compact
  | .color r g b => .ofTriple "r" "g" "b" (Chars.ofInt r) (Chars.ofInt g) (Chars.ofInt b)

/-- The view of a value, if it can be written. -/
def Value.view (v : Value) : Except RenderFault View := v.written v.display

namespace Template

/-- One step from a value to a part of it. -/
inductive Step where
  | attribute (name : Chars)
  | item (key : Chars)
  | malformed (m : Malformed)
deriving DecidableEq, Repr

/-- The whole number that digits after a number denote, `none` if anything else follows
them; a number that is too great is refused even then. -/
def indexFrom (n : Nat) : Chars → Except Malformed (Option Nat)
  | [] => .ok (some n)
  | c :: r =>
    match Chars.digitValue c with
    | none => .ok none
    | some d =>
      if 10 * n + d ≤ Width.numberLimit then indexFrom (10 * n + d) r else .error .tooManyDigits

/-- The whole number that a text of digits alone denotes. -/
def index? (t : Chars) : Except Malformed (Option Nat) :=
  if t = [] then .ok none else indexFrom 0 t

/-! ## Sorts -/

/-- The module in which a sort is defined. -/
def moduleName : Holder → Chars
  | .value _ => "cadscript.values"
  | .view => "cadscript.emit.template"
  | _ => "builtins"

/-- The text that stands for a sort. -/
def sortText (h : Holder) : Chars :=
  match h with
  | .value _ | .view => "<class '" ++ moduleName h ++ "." ++ h.name ++ "'>"
  | _ => "<class '" ++ h.name ++ "'>"

/-- The description of a sort, if there is one. -/
def sortDoc? : Holder → Option Chars
  | .view => some "Formatted view of a Value with per-component attributes.".toList
  | .text => some <| Chars.unlines [
      "str(object='') -> str",
      "str(bytes_or_buffer[, encoding[, errors]]) -> str",
      "",
      "Create a new string object from the given object. If encoding or",
      "errors is specified, then the object must expose a data buffer",
      "that will be decoded using the given encoding and error handler.",
      "Otherwise, returns the result of object.__str__() (if defined)",
      "or repr(object).",
      "encoding defaults to sys.getdefaultencoding().",
      "errors defaults to 'strict'."]
  | .entries => some <| Chars.unlines [
      "dict() -> new empty dictionary",
      "dict(mapping) -> new dictionary initialized from a mapping object's",
      "    (key, value) pairs",
      "dict(iterable) -> new dictionary initialized as if via:",
      "    d = \x7b\x7d",
      "    for k, v in iterable:",
      "        d[k] = v",
      "dict(**kwargs) -> new dictionary initialized with the name=value pairs",
      "    in the keyword argument list.  For example:  dict(one=1, two=2)"]
  | .sort => some <| Chars.unlines [
      "type(object) -> the object's type",
      "type(name, bases, dict, **kwds) -> a new type"]
  | .value _ | .nothing => none

/-! ## Steps -/

/-- What a path leads to; a view lies at an address. -/
inductive Shown where
  | view (address : Nat) (v : View)
  | text (t : Chars)
  | entries (v : View)
  | sort (h : Holder)
  | nothing

namespace Shown

/-- The sort of what is shown. -/
def holder : Shown → Holder
  | view .. => .view
  | text _ => .text
  | entries _ => .entries
  | sort _ => .sort
  | nothing => .nothing

/-- The text of what a path leads to. -/
def chars : Shown → Chars
  | view _ v => v.text
  | text t => t
  | entries v => v.entriesText
  | sort h => sortText h
  | nothing => "None"

/-- What a view as a whole is shown as for inspection. -/
def viewMark (address : Nat) : Chars :=
  "<cadscript.emit.template.TemplateValue object at 0x" ++ Nat.toDigits 16 address ++ ">"

/-- The text of what is shown, for inspection. -/
def inspected : Shown → Chars
  | view a _ => viewMark a
  | text t => Chars.quoted t
  | s => s.chars

/-- A text, or nothing. -/
def ofText? : Option Chars → Shown
  | some t => text t
  | none => nothing

/-- The attribute of a name that only some have. -/
def ownAttribute? (s : Shown) (n : Chars) : Option Shown :=
  match s with
  | view _ v =>
    if n = "__dict__".toList then some (entries v)
    else if n = "__weakref__".toList then some nothing
    else if n = "__module__".toList then some (text (moduleName .view))
    else (v.entries.get? n).map text
  | sort h =>
    if n = "__name__".toList ∨ n = "__qualname__".toList then some (text h.name)
    else if n = "__module__".toList then some (text (moduleName h))
    else none
  | _ => none

/-- The attribute of a name. -/
def attribute? (s : Shown) (n : Chars) : Option Shown :=
  if n = "__class__".toList then some (sort s.holder)
  else if n = "__doc__".toList then
    some (ofText? (sortDoc? (match s with | sort h => h | s => s.holder)))
  else s.ownAttribute? n

/-- The cause for which there is no attribute of a name. -/
def withoutAttribute (s : Shown) (n : Chars) : RenderFault :=
  match s with
  | sort h => .noSortAttribute h n
  | s => .noAttribute s.holder n

/-- The item of a key. -/
def item (s : Shown) (k : Chars) : Except RenderFault Shown :=
  match index? k, s with
  | .error m, _ => .error (.malformed m)
  | .ok none, text _ => .error .noIndex
  | .ok (some i), text t =>
    match t[i]? with
    | some c => .ok (text [c])
    | none => .error .noSuchItem
  | .ok none, entries v =>
    match v.entries.get? k with
    | some t => .ok (text t)
    | none => .error (.missing k)
  | .ok (some i), entries _ => .error (.missingNumber i)
  | .ok _, sort h => .error (.noSortItems h)
  | .ok _, s => .error (.noItems s.holder)

/-- Takes one step. -/
def step (s : Shown) : Step → Except RenderFault Shown
  | .malformed m => .error (.malformed m)
  | .attribute n =>
    match s.attribute? n with
    | some r => .ok r
    | none => .error (s.withoutAttribute n)
  | .item k => s.item k

/-- What is shown under a width rule, which only views and texts obey. -/
def formatted (s : Shown) (rule : Chars) : Except RenderFault Chars :=
  match s with
  | view .. | text _ => (Width.format rule s.chars).mapError .malformed
  | s => if rule = [] then .ok s.chars else .error (.noRule s.holder)

end Shown
end Template
end DraftScript
