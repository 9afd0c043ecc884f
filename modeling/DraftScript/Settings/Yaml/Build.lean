/-
# The datum of a YAML document

A node becomes a datum by its tag. A reference becomes what its name stands for, and a
collection inside itself is cut off. A name whose node is in no such collection stands for one
datum, built once, so a text that uses names many times over does not take long. What a mapping
holds:

| key | meaning |
| --- | --- |
| `<<` | the pairs of a mapping, or of several, go before all others |
| `=` | the text `=`; a mapping with it may stand for a scalar, the one of that key |
| anything else | a scalar; of two that are the same the last one counts |

Collections are read from the outside in, level by level. So the fault that is told is one
of the least level, and of several the first in the text. A fault of a collection as such
is found when its parts are read; a tag that no node can have, when the node is met.
-/

import DraftScript.Settings.Yaml.Scalar
import DraftScript.Settings.Yaml.Tree

namespace DraftScript
namespace Yaml

/-- What is built, or a fault and its level. -/
abbrev Built (α : Type) := Except (Nat × Fault) α

namespace Built

/-- Both of two results, or the fault of the lesser level; the first of two. -/
def both {α β : Type} : Built α → Built β → Built (α × β)
  | .ok a, .ok b => .ok (a, b)
  | .ok _, .error g => .error g
  | .error f, .ok _ => .error f
  | .error f, .error g => .error (if g.1 < f.1 then g else f)

/-- All results, or the fault of the least level. -/
def all {α : Type} : List (Built α) → Built (List α)
  | [] => .ok []
  | x :: xs => (both x (all xs)).map fun p => p.1 :: p.2

end Built

/-! ## Nodes -/

/-- The tag of a node. -/
def Node.tag : Node → Tag
  | .scalar m isPlain t =>
    match m.tag with
    | none => if isPlain then .ofPlain t else .text
    | some u => if u = ['!'] then .ofPlain t else .ofUri u
  | .sequence _ m _ => collection m .list
  | .mapping _ m _ => collection m .mapping
  | .reference _ => .other
where
  /-- The tag of a collection. -/
  collection (m : Marks) (usual : Tag) : Tag :=
    match m.tag with
    | none => usual
    | some u => if u = ['!'] then usual else .ofUri u

/-- The name of a node. -/
def Node.name : Node → Option Chars
  | .scalar m _ _ | .sequence _ m _ | .mapping _ m _ => m.name
  | .reference _ => none

mutual

/-- The names in a node with what they stand for, those of its parts first. -/
def Node.names : Node → Assoc Chars Node
  | .sequence p m items => listNames items ++ named (.sequence p m items)
  | .mapping p m pairs => pairNames pairs ++ named (.mapping p m pairs)
  | n => named n
where
  /-- The name of a node itself. -/
  named (n : Node) : Assoc Chars Node := n.name.toList.map (·, n)

/-- The names in nodes. -/
def listNames : List Node → Assoc Chars Node
  | [] => []
  | n :: ns => n.names ++ listNames ns

/-- The names in pairs of nodes. -/
def pairNames : List (Node × Node) → Assoc Chars Node
  | [] => []
  | (a, b) :: ps => a.names ++ b.names ++ pairNames ps

end

mutual

/-- Whether a node refers to known names only. -/
def Node.isClosed (known : Chars → Bool) : Node → Bool
  | .reference a => known a
  | .scalar .. => true
  | .sequence _ _ items => areClosed known items
  | .mapping _ _ pairs => arePairsClosed known pairs

/-- Whether nodes refer to known names only. -/
def areClosed (known : Chars → Bool) : List Node → Bool
  | [] => true
  | n :: ns => n.isClosed known && areClosed known ns

/-- Whether pairs of nodes refer to known names only. -/
def arePairsClosed (known : Chars → Bool) : List (Node × Node) → Bool
  | [] => true
  | (a, b) :: ps => a.isClosed known && b.isClosed known && arePairsClosed known ps

end

/-- What names stand for: nodes, and the data of some of them, as if met at level zero. -/
structure Names where
  nodes : Assoc Chars Node
  data : Assoc Chars (Built Datum) := []

namespace Names

/-- The node that a node is or refers to. -/
def resolve (names : Names) : Node → Node
  | .reference a => (names.nodes.get? a).getD .nothing
  | n => n

/-- The datum of a node that is met at a level, if it is known. -/
def datum? (names : Names) (level : Nat) (node : Node) : Option (Built Datum) :=
  let name := match node with
    | .reference a => some a
    | n => n.name
  (name.bind names.data.get?).map fun d => d.mapError fun f => (level + f.1, f.2)

end Names

/-- The scalar that a node is, or that a mapping stands for by its key `=`. -/
def scalarText? (names : Names) : Nat → Node → Option Chars
  | 0, _ => none
  | n + 1, node =>
    match names.resolve node with
    | .scalar _ _ t => some t
    | .mapping _ _ pairs =>
      match pairs.find? fun p => (names.resolve p.1).tag = .default with
      | some p => scalarText? names n p.2
      | none => none
    | _ => none

/-- A key as it stands in a mapping: `=` is a text. -/
def plainKey (names : Names) (k : Node) : Node :=
  match names.resolve k with
  | .scalar m isPlain t =>
    if (Node.scalar m isPlain t).tag = .default then .scalar {} false t else k
  | _ => k

/-- The pairs of a mapping at a place, with those that `<<` brings before all others. The
places are of mappings that are being read; of those only the other pairs count. -/
def merged (names : Names) :
    Nat → List Nat → Nat → List (Node × Node) → Read (List (Node × Node))
  | 0, _, _, _ => .error .form
  | n + 1, places, place, pairs => do
    let isMerge := fun (p : Node × Node) => (names.resolve p.1).tag = .merge
    let own := (pairs.filter fun p => !isMerge p).map fun p => (plainKey names p.1, p.2)
    if place ∈ places then return own
    let ofNode := fun (node : Node) =>
      match names.resolve node with
      | .mapping q _ ps => merged names n (place :: places) q ps
      | _ => .error .form
    let brought ← (pairs.filter isMerge).mapM fun p =>
      match names.resolve p.2 with
      | .sequence _ _ items => (items.mapM ofNode).map fun xs => xs.reverse.flatten
      | v => ofNode v
    return brought.flatten ++ own

/-- The scalar that a key is. Anything else is no key, which shows at a level. -/
def keyOf (level : Nat) : Built Datum → Built Scalar
  | .ok (.scalar s) => .ok s
  | .ok _ => .error (level, .form)
  | .error (l, f) => .error (if level < l then (level, .form) else (l, f))

/-- The datum of a node that is met at a level inside collections at some places. The
outermost collection does not count as one of them, since settings are taken out of it. -/
def build (names : Names) : Nat → List Nat → Nat → Node → Built Datum
  | 0, _, level, _ => .error (level, .form)
  | n + 1, places, level, node =>
    if let some d := names.datum? level node then d else
    let node := names.resolve node
    let inside := fun (place : Nat) => if level = 0 then places else place :: places
    let part := fun (place : Nat) => build names n (inside place) (level + 1)
    let item : Nat → Node → Built Datum := fun place i => match names.resolve i with
      | .mapping _ _ [(k, v)] =>
        (Built.both (part place k) (part place v)).map fun p => .pair p.1 p.2
      | _ => .error (level + 1, .form)
    let pairsOf : Nat → List (Node × Node) → Built (List (Scalar × Datum)) := fun place ps => do
      let ps ← (merged names n [] place ps).mapError (level + 1, ·)
      Built.all (ps.map fun p => Built.both (keyOf (level + 1) (part place p.1)) (part place p.2))
    let ofScalar : Built Datum :=
      match (scalarText? names n node).bind (scalar? node.tag), node.tag, node with
      | some _, .moment, .mapping .. => .error (level, .momentOfMapping)
      | some r, _, _ => (r.map .scalar).mapError (level, ·)
      | none, _, _ => .error (level, .form)
    match node.tag, node with
    | .list, .sequence place _ items =>
      if place ∈ places then .ok (.again .list)
      else (Built.all (items.map (part place))).map .list
    | .ordered, .sequence place _ items | .pairs, .sequence place _ items =>
      if place ∈ places then .ok (.again .list)
      else (Built.all (items.map (item place))).map .list
    | .mapping, .mapping place _ ps =>
      if place ∈ places then .ok (.again .mapping)
      else (pairsOf place ps).map fun ps =>
        .mapping (ps.foldl (fun m p => Datum.putKey m p.1 p.2) [])
    | .set, .mapping place _ ps =>
      if place ∈ places then .ok (.again .set)
      else (pairsOf place ps).map fun ps =>
        .set (ps.foldl (fun s p => Datum.putMember s p.1) [])
    | .list, _ | .ordered, _ | .pairs, _ | .mapping, _ | .set, _ => .error (level + 1, .form)
    | _, _ => ofScalar

/-- Adds the datum of a named node, unless it refers to a name without one: it may be in itself. -/
def addDatum (fuel : Nat) (names : Names) (p : Chars × Node) : Names :=
  if p.2.isClosed names.data.has then
    { names with data := (p.1, build names fuel [] 0 p.2) :: names.data }
  else names

/-- The datum of the node of a document. -/
def datumOf (fuel : Nat) (node : Node) : Read Datum :=
  let names := node.names.foldl (addDatum fuel) { nodes := node.names }
  (build names fuel [] 0 node).mapError (·.2)

/-! ## The whole text -/

/-- The datum of a text with no more than so many collections in each other; a text without
tokens stands for nothing. -/
def read (limit : Nat) (t : Chars) : Read Datum := do
  let ts := tokens t
  match ← document limit ts with
  | none => return .null
  | some node => datumOf (4 * ts.length + 8) node

end Yaml
end DraftScript
