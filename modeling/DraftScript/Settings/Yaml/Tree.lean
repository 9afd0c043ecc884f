/-
# The nodes of a YAML document

The tokens of a document make one node, by the grammar

    document  = { directive } [ documentStart ] [ block ] { documentEnd }
    block     = reference | marks ( scalar | flow | blockSequence { entry [block] } blockEnd
              | blockMapping { [ key [node] ] [ value [node] ] } blockEnd )
    node      = block | marks { entry [block] }
    flow      = reference | marks ( scalar
              | flowSequence [ item { flowEntry item } ] flowSequenceEnd
              | flowMapping [ pair { flowEntry pair } ] flowMappingEnd )
    item      = flow | pair
    pair      = key [flow] [ value [flow] ] | flow
    marks     = [ anchor ] [ tag ] | tag anchor

where what is left out is an empty plain scalar, also after marks, a comma may stand before
a closing bracket, and a mapping may hold a sequence whose entries are not indented. A
function's result is what it reads and the tokens after that, or the fault that it meets.
Every step takes fuel, of which there is more than a document of so many tokens can use.

Only so many collections may be in each other. A name stands for one node, which begins
before the name is used. What a handle stands for is said by a directive, or it is `!` for
itself and `!!` for the usual tags.
-/

import DraftScript.Assoc
import DraftScript.Settings.Yaml.Tag
import DraftScript.Settings.Yaml.Token

namespace DraftScript
namespace Yaml

/-- The name and the tag before a node. -/
structure Marks where
  name : Option Chars := none
  tag : Option Chars := none
deriving DecidableEq, Repr

/-- A node. A collection is known by its place, which no other one has. -/
inductive Node where
  | scalar (m : Marks) (isPlain : Bool) (text : Chars)
  | sequence (place : Nat) (m : Marks) (items : List Node)
  | mapping (place : Nat) (m : Marks) (pairs : List (Node × Node))
  | reference (name : Chars)

instance : Inhabited Node := ⟨.scalar {} true []⟩

/-- The node that stands for what is left out. -/
def Node.nothing : Node := .scalar {} true []

/-- Where no rule fits: the fault that is met there, or one of form. -/
def unexpected {α : Type} : List Token → Read α
  | .fault f :: _ => .error f
  | _ => .error .form

/-! ## Depth -/

/-- Whether a token opens a collection. -/
def opens : Token → Bool
  | .blockSequence | .blockMapping | .flowSequence | .flowMapping => true
  | _ => false

/-- Whether a token closes a collection. -/
def closes : Token → Bool
  | .blockEnd | .flowSequenceEnd | .flowMappingEnd => true
  | _ => false

/-- The tokens inside `depth` collections, up to one that opens more than a limit. -/
def bounded (limit depth : Nat) : List Token → List Token
  | [] => []
  | t :: ts =>
    if opens t then
      if depth < limit then t :: bounded limit (depth + 1) ts else [.fault .depth]
    else t :: bounded limit (if closes t then depth - 1 else depth) ts

/-! ## Names and handles -/

/-- The usual handles. -/
def usualHandles : Assoc Chars Chars :=
  [("!".toList, "!".toList), ("!!".toList, "tag:yaml.org,2002:".toList)]

/-- The fault of the next token, or one of form. -/
def nextFault : List Token → Fault
  | .fault f :: _ => f
  | _ => .form

/-- The fault of a name that is given twice, which is found when its node begins. -/
def repeatedFault (handles : Assoc Chars Chars) : List Token → Fault
  | .tag h _ :: ts => if h.all handles.has then nextFault ts else .form
  | ts => nextFault ts

/-- The tokens with handles as what they stand for, up to a handle or a name that stands for
nothing, or a name that is given twice. The first mark of a node is read with what follows it;
`named` and `tagged` tell which marks are before. -/
def settle (handles : Assoc Chars Chars) (names : List Chars) (named tagged : Bool) :
    List Token → List Token
  | [] => []
  | .tag (some h) s :: ts =>
    match handles.get? h with
    | some u => .tag none (u ++ s) :: settle handles names named true ts
    | none => [.fault (if named || tagged then .form else nextFault ts)]
  | .tag none s :: ts => .tag none s :: settle handles names named true ts
  | .anchor a :: ts =>
    if a ∈ names then [.fault (if named then .form else repeatedFault handles ts)]
    else .anchor a :: settle handles (a :: names) true tagged ts
  | .reference a :: ts =>
    if a ∈ names then .reference a :: settle handles names false false ts else [.fault .form]
  | t :: ts => t :: settle handles names false false ts

/-! ## Nodes -/

/-- The marks that begin some tokens, and the rest. -/
def marks : List Token → Marks × List Token
  | .anchor a :: .tag _ t :: r => (⟨some a, some t⟩, r)
  | .tag _ t :: .anchor a :: r => (⟨some a, some t⟩, r)
  | .anchor a :: r => (⟨some a, none⟩, r)
  | .tag _ t :: r => (⟨none, some t⟩, r)
  | r => ({}, r)

/-- An empty node after marks; without marks there must be something else. -/
def empty (m : Marks) : List Token → Read (Node × List Token)
  | .fault f :: _ => .error f
  | ts => if m = {} then .error .form else .ok (.scalar m true [], ts)

/-- Whether a token may follow a key or value that is left out in a block mapping. -/
def endsPair : Token → Bool
  | .key | .value | .blockEnd => true
  | _ => false

mutual

/-- A node in block style; `loose` admits entries that are not indented. -/
def block (loose : Bool) : Nat → List Token → Read (Node × List Token)
  | 0, _ => .error .form
  | n + 1, ts =>
    match marks ts with
    | (m, .blockSequence :: r) => (entries n r []).map fun p => (.sequence ts.length m p.1, p.2)
    | (m, .blockMapping :: r) => (pairs n r []).map fun p => (.mapping ts.length m p.1, p.2)
    | (m, .blockEntry :: r) =>
      if loose then
        (looseEntries n (.blockEntry :: r) []).map fun p => (.sequence ts.length m p.1, p.2)
      else empty m (.blockEntry :: r)
    | _ => flow n ts

/-- The entries of a block sequence, up to its end. -/
def entries : Nat → List Token → List Node → Read (List Node × List Token)
  | 0, _, _ => .error .form
  | n + 1, ts, acc =>
    match ts with
    | .blockEnd :: r => .ok (acc.reverse, r)
    | .blockEntry :: .blockEntry :: r => entries n (.blockEntry :: r) (.nothing :: acc)
    | .blockEntry :: .blockEnd :: r => .ok ((.nothing :: acc).reverse, r)
    | .blockEntry :: r => do
      let (d, r) ← block false n r
      entries n r (d :: acc)
    | _ => unexpected ts

/-- Entries that stand as deep as the mapping around them. -/
def looseEntries : Nat → List Token → List Node → Read (List Node × List Token)
  | 0, _, _ => .error .form
  | n + 1, ts, acc =>
    match ts with
    | .blockEntry :: t :: r =>
      if t == .blockEntry || endsPair t then looseEntries n (t :: r) (.nothing :: acc)
      else do
        let (d, r) ← block false n (t :: r)
        looseEntries n r (d :: acc)
    | _ => .ok (acc.reverse, ts)

/-- The pairs of a block mapping, up to its end. -/
def pairs : Nat → List Token → List (Node × Node) → Read (List (Node × Node) × List Token)
  | 0, _, _ => .error .form
  | n + 1, ts, acc =>
    match ts with
    | .blockEnd :: r => .ok (acc.reverse, r)
    | .key :: r => do
      let (k, r) ← optional n r
      let (v, r) ← match r with
        | .value :: r' => optional n r'
        | _ => .ok (.nothing, r)
      pairs n r ((k, v) :: acc)
    | _ => unexpected ts

/-- A key or value of a block mapping, nothing if it is left out. -/
def optional : Nat → List Token → Read (Node × List Token)
  | 0, _ => .error .form
  | n + 1, ts =>
    match ts with
    | t :: r => if endsPair t then .ok (.nothing, t :: r) else block true n (t :: r)
    | [] => .error .form

/-- A node in flow style. -/
def flow : Nat → List Token → Read (Node × List Token)
  | 0, _ => .error .form
  | n + 1, ts =>
    match ts with
    | .reference a :: r => .ok (.reference a, r)
    | _ =>
      match marks ts with
      | (m, .scalar p t :: r) => .ok (.scalar m p t, r)
      | (m, .flowSequence :: r) => (items n r []).map fun p => (.sequence ts.length m p.1, p.2)
      | (m, .flowMapping :: r) => (members n r []).map fun p => (.mapping ts.length m p.1, p.2)
      | (m, r) => empty m r

/-- The items of a flow sequence, up to its end. -/
def items : Nat → List Token → List Node → Read (List Node × List Token)
  | 0, _, _ => .error .form
  | n + 1, ts, acc =>
    match ts with
    | .flowSequenceEnd :: r => .ok (acc.reverse, r)
    | .key :: r => do
      let (p, r) ← flowPair n .flowSequenceEnd r
      moreItems n r (.mapping ts.length {} [p] :: acc)
    | _ => do
      let (d, r) ← flow n ts
      moreItems n r (d :: acc)

/-- What follows an item of a flow sequence. -/
def moreItems : Nat → List Token → List Node → Read (List Node × List Token)
  | 0, _, _ => .error .form
  | n + 1, ts, acc =>
    match ts with
    | .flowSequenceEnd :: r => .ok (acc.reverse, r)
    | .flowEntry :: r => items n r acc
    | _ => unexpected ts

/-- The members of a flow mapping, up to its end. -/
def members :
    Nat → List Token → List (Node × Node) → Read (List (Node × Node) × List Token)
  | 0, _, _ => .error .form
  | n + 1, ts, acc =>
    match ts with
    | .flowMappingEnd :: r => .ok (acc.reverse, r)
    | .key :: r => do
      let (p, r) ← flowPair n .flowMappingEnd r
      moreMembers n r (p :: acc)
    | _ => do
      let (k, r) ← flow n ts
      moreMembers n r ((k, .nothing) :: acc)

/-- What follows a member of a flow mapping. -/
def moreMembers :
    Nat → List Token → List (Node × Node) → Read (List (Node × Node) × List Token)
  | 0, _, _ => .error .form
  | n + 1, ts, acc =>
    match ts with
    | .flowMappingEnd :: r => .ok (acc.reverse, r)
    | .flowEntry :: r => members n r acc
    | _ => unexpected ts

/-- The key and the value after a key indicator in brackets that `closing` ends. -/
def flowPair : Nat → Token → List Token → Read ((Node × Node) × List Token)
  | 0, _, _ => .error .form
  | n + 1, closing, ts => do
    let isOut := fun (ts : List Token) =>
      match ts with
      | t :: _ => t == .flowEntry || t == closing
      | [] => false
    let (k, r) ← if isOut ts || ts.head? == some .value then .ok (.nothing, ts) else flow n ts
    match r with
    | .value :: r' => do
      let (v, r) ← if isOut r' then .ok (.nothing, r') else flow n r'
      return ((k, v), r)
    | _ => return ((k, .nothing), r)

end

/-! ## The document -/

/-- Whether a document ends before a token. -/
def endsDocument : Token → Bool
  | .directive _ | .documentStart | .documentEnd => true
  | _ => false

/-- The node of a document after its start. -/
def content (ts : List Token) : Read (Node × List Token) :=
  match ts with
  | [] => .ok (.nothing, [])
  | t :: _ => if endsDocument t then .ok (.nothing, ts) else block false (4 * ts.length + 4) ts

/-- The handles that directives give, `seen` telling whether a version was. There may be one
version, of YAML 1, and each handle may be given once. -/
def directives (seen : Bool) (handles : Assoc Chars Chars) :
    List Token → Read (Assoc Chars Chars × List Token)
  | .directive (.version n) :: ts =>
    if seen || n ≠ 1 then .error .form else directives true handles ts
  | .directive (.handle h u) :: ts =>
    if handles.has h then .error .form else directives seen (handles.put h u) ts
  | .directive .other :: ts => directives seen handles ts
  | .documentStart :: ts => .ok (usualHandles.foldl
      (fun hs p => if hs.has p.1 then hs else hs.put p.1 p.2) handles, ts)
  | ts => unexpected ts

/-- The node of all tokens, `none` if there are none: one document at most, and no more than so
many collections in each other. -/
def document (limit : Nat) (all : List Token) : Read (Option Node) :=
  let ts := bounded limit 0 all
  match ts with
  | [] => .ok none
  | t :: _ => do
    let (d, r) ← match t with
      | .directive _ | .documentStart => do
        let (handles, r) ← directives false [] ts
        content (settle handles [] false false r)
      | _ =>
        let ts := settle usualHandles [] false false ts
        block false (4 * ts.length + 4) ts
    match r.dropWhile fun t => t == .documentEnd with
    | [] => return some d
    | rest => unexpected rest

end Yaml
end DraftScript
