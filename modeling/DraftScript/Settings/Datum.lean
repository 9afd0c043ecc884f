/-
# Data of a settings file

A datum is a scalar, or a collection: a list, whose parts may be pairs, a mapping or a set.
Keys and members are scalars. Its description is the text that stands for it in generated
code: a text as it is, a day or moment as the calendar writes it, anything else as in the
table; inside a collection texts are quoted.

| datum | description |
| --- | --- |
| nothing | `None` |
| truth value | `True`, `False` |
| whole number | `5` |
| number | `1.5`, `1e+20` |
| bytes | `b'abc'` |
| list | `['a', 1]`, with pairs `[('a', 1)]` |
| mapping | `{'a': 1}` |
| set | `{'a'}`, `set()` |
| a collection inside itself | `[...]`, `{...}`, `set(...)` |

Two keys are the same if they are equal as numbers, so `1`, `1.0` and `True` are one key;
it is shown as it was first written. What is no number is one key, too. A set of whole
numbers is shown in the order of their residues.

A datum is described from left to right, each collection one level above its parts, a set two,
and as deep as there is room for levels. The first part that is too long or too deep is why it
cannot be.
-/

import DraftScript.Chars.Quoted
import DraftScript.Number.Length
import DraftScript.Number.Text
import DraftScript.Settings.Calendar

namespace DraftScript

/-- A datum without parts. -/
inductive Scalar where
  | null
  | truth (b : Bool)
  | whole (n : Int)
  | real (x : Binary64)
  | text (t : Chars)
  | bytes (bs : List Nat)
  | date (d : Date)
  | moment (m : Moment)
deriving DecidableEq

namespace Scalar

/-- A byte between quotes `q`. -/
def quotedByte (q : Char) (b : Nat) : Chars :=
  let c := Char.ofNat b
  if c = q ∨ c = '\\' then ['\\', c]
  else if c = '\n' then "\\n"
  else if c = '\r' then "\\r"
  else if c = '\t' then "\\t"
  else if 32 ≤ b ∧ b < 127 then [c]
  else "\\x" ++ Chars.hex 2 b

/-- Bytes between quotes. -/
def quotedBytes (bs : List Nat) : Chars :=
  let q := Chars.quoteFor (bs.map Char.ofNat)
  'b' :: q :: bs.flatMap (quotedByte q) ++ [q]

/-- The description of a scalar inside a list or mapping. -/
def inner : Scalar → Chars
  | null => "None"
  | truth b => if b then "True" else "False"
  | whole n => Chars.ofInt n
  | real x => x.describe
  | text t => Chars.quoted t
  | bytes bs => quotedBytes bs
  | date d => d.inner
  | moment m => m.inner

/-- The text that stands for a scalar. -/
def describe : Scalar → Chars
  | text t => t
  | date d => d.text
  | moment m => m.text
  | s => s.inner

/-- The name of the type of a scalar in messages. -/
def typeName : Scalar → Chars
  | null => "NoneType"
  | truth _ => "bool"
  | whole _ => "int"
  | real _ => "float"
  | text _ => "str"
  | bytes _ => "bytes"
  | date _ => "datetime.date"
  | moment _ => "datetime.datetime"

/-- Whether a scalar counts as no content: nothing, false, zero and what is empty. -/
def isVoid : Scalar → Bool
  | null => true
  | truth b => !b
  | whole n => n == 0
  | real x => x.isZero
  | text t => t == []
  | bytes bs => bs == []
  | date _ | moment _ => false

/-- The place of a number among all numbers, the infinities at the ends. -/
def magnitude? : Scalar → Option (Int × Rat)
  | truth b => some (0, if b then 1 else 0)
  | whole n => some (0, n)
  | real (.infinity s) => some (if s then -1 else 1, 0)
  | real x => x.toRat?.map fun q => (0, q)
  | _ => none

/-- The whole number that a number is. -/
def toInt? : Scalar → Option Int
  | truth b => some (if b then 1 else 0)
  | whole n => some n
  | real x => x.toInt?
  | _ => none

/-- The number of places for the members of a set: a power of two that leaves half of them free. -/
def places (n : Nat) : Nat := if n ≤ 4 then 8 else 2 <<< (2 * n).log2

/-- The place of a whole number among so many: its residue modulo `2^61 - 1`, where `-1` goes
with `-2`. -/
def place (size : Nat) (n : Int) : Int :=
  let m := n.tmod 0x1fffffffffffffff
  (if m = -1 then -2 else m) % size

/-- The members of a set in the order in which they are shown: whole numbers by their places,
members that are not all whole numbers as they were written. -/
def arranged (ss : List Scalar) : List Scalar :=
  match ss.mapM fun s => s.toInt?.map fun n => (place (places ss.length) n, s) with
  | some l => (l.mergeSort fun a b => decide (a.1 ≤ b.1)).map Prod.snd
  | none => ss

/-- Whether two scalars are the same key. -/
def same : Scalar → Scalar → Bool
  | moment a, moment b => a.same b
  | a, b =>
    match a.magnitude?, b.magnitude? with
    | some x, some y => x == y
    | _, _ => a == b

/-- Why a scalar cannot be described: a whole number may be too long for that. -/
def fault? : Scalar → Option DescriptionFault
  | whole n => if isWritable n then none else some .unwritable
  | _ => none

end Scalar

/-- The sorts of collections. -/
inductive Collection where
  | list | mapping | set
deriving DecidableEq, Repr

/-- A datum of a settings file; `again` is a collection inside itself. -/
inductive Datum where
  | scalar (s : Scalar)
  | list (ds : List Datum)
  | pair (a b : Datum)
  | mapping (ps : List (Scalar × Datum))
  | set (ss : List Scalar)
  | again (c : Collection)

namespace Datum

/-- The datum of a text. -/
def text (t : Chars) : Datum := .scalar (.text t)

/-- The datum that stands for nothing. -/
def null : Datum := .scalar .null

instance : Inhabited Datum := ⟨null⟩

/-- Gives a key a datum, in its old place and as it was first written if it is there. -/
def putKey : List (Scalar × Datum) → Scalar → Datum → List (Scalar × Datum)
  | [], k, d => [(k, d)]
  | (l, e) :: r, k, d => if l.same k then (l, d) :: r else (l, e) :: putKey r k d

/-- Adds a member to a set. -/
def putMember (ss : List Scalar) (s : Scalar) : List Scalar :=
  if ss.any fun x => x.same s then ss else ss ++ [s]

/-- The description of a collection inside itself. -/
def againText : Collection → Chars
  | .list => "[...]"
  | .mapping => "\x7b...\x7d"
  | .set => "set(...)"

mutual

/-- The description of a datum inside a list or mapping. -/
def inner : Datum → Chars
  | .scalar s => s.inner
  | .list ds => "[" ++ innerList ds ++ "]"
  | .pair a b => "(" ++ inner a ++ ", " ++ inner b ++ ")"
  | .mapping ps => "\x7b" ++ innerPairs ps ++ "\x7d"
  | .set [] => "set()"
  | .set ss => "\x7b" ++ ", ".toList.intercalate ((Scalar.arranged ss).map Scalar.inner) ++ "\x7d"
  | .again c => againText c

/-- The descriptions of data, separated by commas. -/
def innerList : List Datum → Chars
  | [] => []
  | [d] => inner d
  | d :: e :: r => inner d ++ ", " ++ innerList (e :: r)

/-- The descriptions of keys with their data, separated by commas. -/
def innerPairs : List (Scalar × Datum) → Chars
  | [] => []
  | [(k, d)] => k.inner ++ ": " ++ inner d
  | (k, d) :: e :: r => k.inner ++ ": " ++ inner d ++ ", " ++ innerPairs (e :: r)

end

/-- The text that stands for a datum. -/
def describe : Datum → Chars
  | .scalar s => s.describe
  | d => inner d

mutual

/-- Why a datum cannot be described where there is room for so many levels, if it cannot be. -/
def fault? : Nat → Datum → Option DescriptionFault
  | _, .scalar s => s.fault?
  | _, .again _ => none
  | n, .list ds => listFault? n ds
  | 0, .pair .. => some .nested
  | n + 1, .pair a b => fault? n a <|> fault? n b
  | n, .mapping ps => pairsFault? n ps
  | _, .set [] => none
  | _ + 2, .set ss => ss.findSome? Scalar.fault?
  | _, .set _ => some .nested

/-- Why the parts of a list cannot be described. -/
def listFault? : Nat → List Datum → Option DescriptionFault
  | _, [] => none
  | 0, _ :: _ => some .nested
  | n + 1, d :: ds => fault? n d <|> listFault? (n + 1) ds

/-- Why the keys and data of a mapping cannot be described. -/
def pairsFault? : Nat → List (Scalar × Datum) → Option DescriptionFault
  | _, [] => none
  | 0, _ :: _ => some .nested
  | n + 1, (k, d) :: ps => k.fault? <|> fault? n d <|> pairsFault? (n + 1) ps

end

/-- The text that stands for a datum, if it can be described where there is room for so many
levels. -/
def describe? (room : Nat) (d : Datum) : Except DescriptionFault Chars :=
  match d.fault? room with
  | some f => .error f
  | none => .ok d.describe

/-- The text that a datum is. -/
def text? : Datum → Option Chars
  | .scalar (.text t) => some t
  | _ => none

/-- Whether a datum is nothing. -/
def isNull : Datum → Bool
  | .scalar .null => true
  | _ => false

/-- The name of the type of a collection in messages. -/
def collectionName : Collection → Chars
  | .list => "list"
  | .mapping => "dict"
  | .set => "set"

/-- The name of the type of a datum in messages. -/
def typeName : Datum → Chars
  | .scalar s => s.typeName
  | .list _ => collectionName .list
  | .pair .. => "tuple"
  | .mapping _ => collectionName .mapping
  | .set _ => collectionName .set
  | .again c => collectionName c

/-- Whether a datum counts as no content. -/
def isVoid : Datum → Bool
  | .scalar s => s.isVoid
  | .list ds => ds.isEmpty
  | .mapping ps => ps.isEmpty
  | .set ss => ss.isEmpty
  | .pair .. | .again _ => false

example : (Datum.list [.text "a", .scalar (.whole 1)]).describe = "['a', 1]" := by decide +kernel
example : (Datum.scalar (.bytes [104, 105, 0])).describe = "b'hi\\x00'" := by decide +kernel
example : Scalar.same (.whole 1) (.truth true) = true := by decide +kernel

end Datum
end DraftScript
