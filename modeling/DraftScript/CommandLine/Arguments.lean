/-
# Arguments of a command line

The arguments of a tool are options and positional arguments. A long option may be cut to
any beginning that fits no other option, and takes a value after `=` or as the next
argument; a short option takes it in the same argument too, and short options without
values may stand together. After `--` there are no options.

Two sets of rules are in use, which differ in what stands with short options:

| argument | older | newer |
| --- | --- | --- |
| `-o--` | no value | the value `--` |
| `-vc=a` | `-v`, `-c` with `=a` | `-v`, `-c` with `a` |
| `-v=h` | `-v`, `-h` | an error |
| `-vhx` | an error | `-v`, `-h`, and `-x`, which fits nowhere |

A form names the options and the one positional argument that may be given. A positional
argument that is a command takes everything after it as well, for another form. Options
are told apart first, so an ambiguous one stops everything; the others are taken in order,
and what fits nowhere stops the tool only at the end. Asking for help stops it at once.
-/

import DraftScript.Chars.Basic
import DraftScript.Chars.Digit

namespace DraftScript

/-- Why a tool stops at its arguments. -/
inductive ArgumentStop where
  | help
  | usage
deriving DecidableEq, Repr

/-- An option: its names, the dashes included, and whether it takes a value. -/
structure ToolOption where
  names : List Chars
  takesValue : Bool := false
deriving DecidableEq, Repr

/-- The positional argument of a form. -/
inductive Positional where
  | required
  | optional
  | command
deriving DecidableEq, Repr

/-- The options and the positional argument that may be given. -/
structure ArgumentForm where
  options : List ToolOption
  positional : Positional

/-- The rules for what stands with short options. -/
inductive ArgumentRules where
  | older
  | newer
deriving DecidableEq, Repr

/-- What stands in place of the value of an option. -/
inductive OptionValue where
  | text (t : Chars)
  | dashes
deriving DecidableEq, Repr

/-- The value that a text in its place is. -/
def OptionValue.ofText (rules : ArgumentRules) (t : Chars) : OptionValue :=
  if rules = .older ∧ t = "--".toList then .dashes else .text t

/-- The text of a value. -/
def OptionValue.text? : OptionValue → Option Chars
  | text t => some t
  | dashes => none

/-- What is read by a form: options with their values in order, the positional argument
with what follows a command, and what fits nowhere. -/
structure Reading where
  options : List (ToolOption × Option OptionValue) := []
  positional : Option (List Chars) := none
  strange : List Chars := []
deriving Repr

/-- A text that stands with an option, after `=` or directly. -/
structure Attached where
  isAssigned : Bool
  text : Chars
deriving Repr

/-- An argument that looks like an option: the option if there is one, its name, and the
text that stands with it. -/
structure Occurrence where
  option : Option ToolOption
  name : Chars
  attached : Option Attached
deriving Repr

/-- What an occurrence stands for: options with their values, whether the value of the last one
is the next argument, and what fits nowhere. -/
structure Taken where
  options : List (ToolOption × Option OptionValue)
  usesNext : Bool := false
  strange : List Chars := []
deriving Repr

/-- What an argument is before options take their values. -/
inductive ArgumentClass where
  | plain
  | dashes
  | occurrence (o : Occurrence)

namespace ArgumentForm

/-- The option that has a name. -/
def find? (p : ArgumentForm) (name : Chars) : Option ToolOption :=
  p.options.find? fun o => name ∈ o.names

/-- All names with their options. -/
def named (p : ArgumentForm) : List (Chars × ToolOption) :=
  p.options.flatMap fun o => o.names.map (·, o)

/-- Whether an argument is a negative number; a line feed may end it. -/
def isNegativeNumber : Chars → Bool
  | '-' :: r =>
    match Chars.readDigits r with
    | (_ :: _, []) | (_ :: _, ['\n']) => true
    | (_, '.' :: s) =>
      match Chars.readDigits s with
      | (_ :: _, []) | (_ :: _, ['\n']) => true
      | _ => false
    | _ => false
  | _ => false

/-- The options that an argument may be the beginning of. -/
def candidates (p : ArgumentForm) (a : Chars) : List Occurrence :=
  if "--".toList.isPrefixOf a then
    let (start, value) : Chars × Option Attached := match Chars.cutAt '=' a with
      | some (s, v) => (s, some ⟨true, v⟩)
      | none => (a, none)
    (p.named.filter fun n => start.isPrefixOf n.1).map fun n => ⟨some n.2, n.1, value⟩
  else
    p.named.filterMap fun n =>
      if n.1 = a.take 2 then some ⟨some n.2, n.1, some ⟨false, a.drop 2⟩⟩
      else if a.isPrefixOf n.1 then some ⟨some n.2, n.1, none⟩
      else none

/-- What an argument is. -/
def classify (p : ArgumentForm) (a : Chars) : Except ArgumentStop ArgumentClass :=
  if a.head? ≠ some '-' then .ok .plain
  else match p.find? a with
    | some o => .ok (.occurrence ⟨some o, a, none⟩)
    | none =>
      if a.length = 1 then .ok .plain
      else
        let exact := (Chars.cutAt '=' a).bind fun c => (p.find? c.1).map fun o =>
          (⟨some o, c.1, some ⟨true, c.2⟩⟩ : Occurrence)
        match exact, p.candidates a with
        | some o, _ => .ok (.occurrence o)
        | none, [o] => .ok (.occurrence o)
        | none, _ :: _ :: _ => .error .usage
        | none, [] =>
          if isNegativeNumber a || ' ' ∈ a then .ok .plain
          else .ok (.occurrence ⟨none, a, none⟩)

/-- All arguments with what they are; after `--` they are plain. -/
def classifyAll (p : ArgumentForm) :
    List Chars → Except ArgumentStop (List (Chars × ArgumentClass))
  | [] => .ok []
  | a :: as =>
    if a = "--".toList then .ok ((a, .dashes) :: as.map (·, .plain))
    else do
      let c ← p.classify a
      let cs ← classifyAll p as
      return (a, c) :: cs

/-- Whether an argument is an option. -/
def isOccurrence : Chars × ArgumentClass → Bool
  | (_, .occurrence _) => true
  | _ => false

/-- The dashes that begin arguments, and the rest. -/
def splitDashes : List (Chars × ArgumentClass) → List Chars × List (Chars × ArgumentClass)
  | (a, .dashes) :: r => let p := splitDashes r; (a :: p.1, p.2)
  | r => ([], r)

/-- The positional argument that begins some arguments, and the rest; dashes around it do
not count, except that they are passed on with a command. -/
def takePositional (p : ArgumentForm) (as : List (Chars × ArgumentClass)) :
    Option (List Chars × List (Chars × ArgumentClass)) :=
  let (before, r) := splitDashes as
  match p.positional, r with
  | .command, (a, .plain) :: r' => some (before ++ a :: r'.map (·.1), [])
  | .command, _ => none
  | _, (a, .plain) :: r' => some ([a], (splitDashes r').2)
  | .required, _ => none
  | .optional, _ => some ([], r)

/-- The text that stands with the next of short options in one argument. -/
def attached? (rules : ArgumentRules) : Chars → Option Attached
  | [] => none
  | c :: r => some (if rules = .newer ∧ c = '=' then ⟨true, r⟩ else ⟨false, c :: r⟩)

/-- What an option stands for with what is attached to it. Of the text that stands with an
option without a value the first character is the next option; if it is none, the older rules
have an error, and by the newer ones the text fits nowhere. -/
def together (p : ArgumentForm) (rules : ArgumentRules) (next : Option Chars) (o : ToolOption)
    (isLong : Bool) : Option Attached → Except ArgumentStop Taken
  | none =>
    if o.takesValue then
      match next with
      | some v => .ok { options := [(o, some (.ofText rules v))], usesNext := true }
      | none => .error .usage
    else .ok { options := [(o, none)] }
  | some ⟨isAssigned, t⟩ =>
    if o.takesValue then .ok { options := [(o, some (.ofText rules t))] }
    else
      match isLong, t with
      | false, c :: r =>
        if rules = .newer ∧ (isAssigned ∨ c = '-') then .error .usage
        else match p.find? ['-', c], rules with
          | none, .older => .error .usage
          | none, .newer => .ok { options := [(o, none)], strange := ['-' :: c :: r] }
          | some o', _ => do
            let x ← together p rules next o' false (attached? rules r)
            return { x with options := (o, none) :: x.options }
      | _, _ => .error .usage
termination_by a => (a.map fun a => a.text.length).getD 0
decreasing_by
  cases r with
  | nil => simp [attached?]
  | cons d r =>
    simp only [attached?, Option.map_some, Option.getD_some, List.length_cons]
    split
    · exact Nat.lt_succ_of_lt (Nat.lt_succ_self _)
    · exact Nat.lt_succ_self _

/-- The next argument, if it can be a value. -/
def nextValue : List (Chars × ArgumentClass) → Option Chars
  | (a, .plain) :: _ => some a
  | _ => none

/-- Whether an option asks for help. -/
def isHelp (o : ToolOption) : Bool := "-h".toList ∈ o.names

/-- Reads arguments in order, taking at most `n` steps. A positional argument comes before
the options after it. -/
def run (p : ArgumentForm) (rules : ArgumentRules) :
    Nat → Reading → List (Chars × ArgumentClass) → Except ArgumentStop Reading
  | 0, r, _ => .ok r
  | _, r, [] => .ok r
  | n + 1, r, (_, .occurrence ⟨none, name, _⟩) :: rest =>
    p.run rules n { r with strange := r.strange ++ [name] } rest
  | n + 1, r, (_, .occurrence ⟨some o, name, attached⟩) :: rest => do
    let x ← p.together rules (nextValue rest) o ("--".toList.isPrefixOf name) attached
    if x.options.any fun x => isHelp x.1 then throw .help
    p.run rules n
      { r with options := r.options ++ x.options, strange := r.strange ++ x.strange }
      (if x.usesNext then rest.drop 1 else rest)
  | n + 1, r, as =>
    match (if r.positional.isNone then p.takePositional as else none) with
    | some (taken, rest) => p.run rules n { r with positional := some taken } rest
    | none =>
      let skipped := as.takeWhile fun a => !isOccurrence a
      p.run rules n { r with strange := r.strange ++ skipped.map (·.1) }
        (as.dropWhile fun a => !isOccurrence a)

/-- Reads the arguments of a tool. What fits nowhere is kept for the end. -/
def read (p : ArgumentForm) (rules : ArgumentRules) (as : List Chars) :
    Except ArgumentStop Reading := do
  let cs ← p.classifyAll as
  p.run rules (cs.length + 1) {} cs

end ArgumentForm
end DraftScript
