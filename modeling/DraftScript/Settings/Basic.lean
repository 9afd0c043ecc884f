/-
# Settings

Seven settings shape the output and the log:

| key | default | meaning |
| --- | --- | --- |
| `indent` | 16 | the text before every line, or its number of spaces |
| `namespace` | `GeneratedCAD` | names in the default header |
| `class_name` | `CADCommands` | |
| `command_method` | `RUNGENERATED` | |
| `header`, `footer` | none | texts in place of the default ones |
| `log_level` | `WARNING` | the least level that is logged |

Further, `logging` may hold a mapping whose `level`, in capitals, comes before
`log_level`; it must be one that can be described where there is room for so many levels of
data. Of several faults the first of these is reported: `logging`, `indent`, unknown keys. Of
unknown keys that are no texts the least is told by its type, if they have an order. No other
setting is checked. No content at all means the defaults.
-/

import DraftScript.Assoc
import DraftScript.Chars.UpperCase
import DraftScript.Settings.Datum

namespace DraftScript

/-- The settings. -/
structure Settings where
  indent : Chars := List.replicate 16 ' '
  namespaceName : Datum := .text "GeneratedCAD"
  className : Datum := .text "CADCommands"
  commandMethod : Datum := .text "RUNGENERATED"
  header : Datum := .null
  footer : Datum := .null
  logLevel : Datum := .text "WARNING"

/-- What is wrong with settings. -/
inductive SettingsFault where
  | notAMapping
  | logging
  | indent
  | indentSize
  | description (f : DescriptionFault)
  | unknownKeys (keys : List Chars)
  | keyType (typeName : Chars)
  | keyOrder (typeName other : Chars)
  | keyDay
  | keyZone
deriving DecidableEq, Repr

/-- What a fault says. -/
def SettingsFault.message : SettingsFault → Chars
  | notAMapping => "configuration must be a mapping"
  | logging => "'logging' must be a mapping"
  | indent => "'indent' must be a number of spaces or a string"
  | unknownKeys ks => "unknown configuration key(s): " ++ ", ".toList.intercalate ks
  | indentSize => "cannot fit 'int' into an index-sized integer"
  | description f => f.message
  | keyType t => "sequence item 0: expected str instance, " ++ t ++ " found"
  | keyOrder t u =>
    "'<' not supported between instances of '" ++ t ++ "' and '" ++ u ++ "'"
  | keyDay => "can't compare datetime.datetime to datetime.date"
  | keyZone => "can't compare offset-naive and offset-aware datetimes"

/-- Whether a fault is one of a value in the settings. -/
def SettingsFault.isOfValue : SettingsFault → Bool
  | notAMapping | logging | indent | description .unwritable | unknownKeys _ => true
  | indentSize | description .nested | keyType _ | keyOrder .. | keyDay | keyZone => false

namespace Settings

/-- The keys of the settings. -/
def keys : List Chars :=
  ["indent", "namespace", "class_name", "command_method", "header", "footer", "log_level"]

/-- The datum of a key. -/
def find? (ps : Assoc Scalar Datum) (key : Chars) : Option Datum := ps.get? (.text key)

/-- The level that the entry `logging` names, if it names one. -/
def loggingLevel? (room : Nat) (ps : Assoc Scalar Datum) : Except SettingsFault (Option Datum) :=
  match find? ps "logging" with
  | none => .ok none
  | some (.scalar .null) => .ok none
  | some (.mapping qs) =>
    match find? qs "level" with
    | none => .ok none
    | some d => match d.describe? room with
      | .ok t => .ok (some (.text (Chars.upper t)))
      | .error f => .error (.description f)
  | some _ => .error .logging

/-- The sizes that a text can have at all are below `2^63`. -/
def sizeLimit : Int := 0x8000000000000000

/-- A number of spaces; none for a number below zero. -/
def spaces (n : Int) : Except SettingsFault Chars :=
  if n < -sizeLimit ∨ sizeLimit ≤ n then .error .indentSize
  else .ok (List.replicate n.toNat ' ')

/-- The text that the entry `indent` names, if there is one. -/
def indentText? (ps : Assoc Scalar Datum) : Except SettingsFault (Option Chars) :=
  match find? ps "indent" with
  | none => .ok none
  | some (.scalar (.whole n)) => (spaces n).map some
  | some (.scalar (.text t)) => .ok (some t)
  | some _ => .error .indent

/-- The keys of a mapping that are no settings, nor `logging`. -/
def strangeKeys (ps : Assoc Scalar Datum) : List Scalar :=
  ps.keys.filter fun k => k ∉ (keys ++ ["logging".toList]).map Scalar.text

/-- The text that a key is. -/
def keyText? : Scalar → Option Chars
  | .text t => some t
  | _ => none

/-- Texts in order of their characters. -/
def sorted (ts : List Chars) : List Chars := ts.mergeSort fun a b => !decide (b < a)

/-- Whether a number is less than another, so far as they have an order. -/
def isLess (a b : Scalar) : Bool :=
  match a.magnitude?, b.magnitude? with
  | some x, some y => x.1 < y.1 || (x.1 == y.1 && x.2 < y.2)
  | _, _ => false

/-- Whether a scalar is a number. -/
def isNumber : Scalar → Bool
  | .truth _ | .whole _ | .real _ => true
  | _ => false

/-- What has an order with a scalar. -/
inductive Order where
  | number
  | localTime
  | universalTime
  | ofType (typeName : Chars)
deriving DecidableEq

/-- What has an order with a scalar: numbers with each other, and moments that both know the
universal time, or both do not. -/
def order (s : Scalar) : Order :=
  match s with
  | .moment m => if m.ahead.isSome then .universalTime else .localTime
  | s => if isNumber s then .number else .ofType s.typeName

/-- The fault of a key and one before it that have no order. -/
def unordered : Scalar → Scalar → SettingsFault
  | .moment _, .moment _ => .keyZone
  | .moment _, .date _ | .date _, .moment _ => .keyDay
  | k, before => .keyOrder k.typeName before.typeName

/-- The fault of strange keys: texts are named in order. Of other keys of one order the
least is told by its type; keys of different orders are told by their sorts. -/
def strangeFault (ks : List Scalar) : SettingsFault :=
  match ks.mapM keyText?, ks with
  | some ts, _ => .unknownKeys (sorted ts)
  | none, [] => .unknownKeys []
  | none, k :: ks =>
    match ks.find? fun l => order l ≠ order k ∨ k = .null with
    | some l => unordered l k
    | none => .keyType (ks.foldl (fun m l => if isLess l m then l else m) k).typeName

/-- The settings of a mapping. -/
def ofMapping (room : Nat) (ps : Assoc Scalar Datum) : Except SettingsFault Settings := do
  let level ← loggingLevel? room ps
  let indent ← indentText? ps
  let strange := strangeKeys ps
  if strange ≠ [] then throw (strangeFault strange)
  let d : Settings := {}
  return {
    indent := indent.getD d.indent
    namespaceName := (find? ps "namespace").getD d.namespaceName
    className := (find? ps "class_name").getD d.className
    commandMethod := (find? ps "command_method").getD d.commandMethod
    header := (find? ps "header").getD d.header
    footer := (find? ps "footer").getD d.footer
    logLevel := (level <|> find? ps "log_level").getD d.logLevel }

/-- The settings of a datum. -/
def ofDatum (room : Nat) (d : Datum) : Except SettingsFault Settings :=
  if d.isVoid then .ok {}
  else match d with
    | .mapping ps => ofMapping room ps
    | _ => .error .notAMapping

end Settings
end DraftScript
