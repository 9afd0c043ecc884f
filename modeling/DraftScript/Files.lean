/-
# Files and paths

Files and directories by the names that lead to them from the root. The working directory
and all above it are there, and so is every directory above a file. A path is read part
by part, from the root or from the working directory: empty parts and `.` do not count,
and `..` leads to the directory above. A path is shown with its counting parts only, as
`.` if there are none.

A name may have 255 bytes, and a path less than 4096. Nothing is at a path with a zero
character, or with half of a surrogate pair that stands for no byte, and no file can be made
there.

A file holds a text, or bytes that are no text. Texts are read with every line ending as
a line feed, and written as they are, which half of a surrogate pair forbids: this is found when
the file has already been emptied. Which characters stand for such halves is told by who makes
the texts.

Whatever else keeps a path from being looked at, read or written (rights, a full disk, a loop of
links) is a barrier. It is told before anything else that the path could be refused for, and no
barrier is told where nothing is there. A barrier to writing leaves the file as it was.
-/

import DraftScript.Assoc
import DraftScript.Chars.Quoted

namespace DraftScript

/-- A path: the slashes that begin it, and its counting parts. -/
structure FilePath where
  root : Chars := []
  parts : List Chars := []
deriving DecidableEq, Repr

namespace FilePath

/-- The path of a text. Exactly two slashes at the start stay two. -/
def ofText (t : Chars) : FilePath :=
  let slashes := t.takeWhile (· == '/')
  { root := if slashes.length ≤ 2 then slashes else ['/']
    parts := (Chars.splitOn '/' t).filter fun p => p ≠ [] ∧ p ≠ ['.'] }

/-- The text of a path. -/
def text (p : FilePath) : Chars :=
  if p.root = [] ∧ p.parts = [] then "." else p.root ++ "/".toList.intercalate p.parts

/-- The last part of a path. -/
def name (p : FilePath) : Chars := p.parts.getLast?.getD []

/-- The number of bytes of a text. -/
def byteLength (t : Chars) : Nat := t.foldr (fun c n => c.utf8Size + n) 0

/-- Whether a part is too long for a name. -/
def isLongName (part : Chars) : Bool := 255 < byteLength part

/-- Whether a path is too long. -/
def isLong (p : FilePath) : Bool := 4096 ≤ byteLength p.text

/-- Whether a path has a zero character. -/
def hasZero (p : FilePath) : Bool := p.text.any fun c => c.toNat == 0

end FilePath

/-- What a file holds. -/
inductive Content where
  | text (t : Chars)
  | bytes (b : List UInt8)
deriving DecidableEq, Repr

/-- A text with carriage returns, alone or before a line feed, as line feeds. -/
def lineFeedsOnly : Chars → Chars
  | '\r' :: '\n' :: r => '\n' :: lineFeedsOnly r
  | '\r' :: r => '\n' :: lineFeedsOnly r
  | c :: r => c :: lineFeedsOnly r
  | [] => []

/-- The text of a file, if it holds one. -/
def Content.read? : Content → Option Chars
  | .text t => some (lineFeedsOnly t)
  | .bytes _ => none

/-- The content that bytes are: a text if they are its UTF-8 form. -/
def Content.ofBytes (b : ByteArray) : Content :=
  match String.fromUTF8? b with
  | some s => .text s.toList
  | none => .bytes b.toList

/-- What is done with a path. -/
inductive Access where
  | look | read | write
deriving DecidableEq, Repr

/-- A barrier on a path: its number, what it says, and whether it names the path. -/
structure Barrier where
  number : Nat
  text : Chars
  isNamed : Bool := true
deriving DecidableEq, Repr

namespace Barrier

/-- Rights are missing. -/
def permission : Barrier := { number := 13, text := "Permission denied" }

/-- Nothing can be written there. -/
def readOnly : Barrier := { number := 30, text := "Read-only file system" }

/-- There is no room left. -/
def noSpace : Barrier := { number := 28, text := "No space left on device", isNamed := false }

/-- Whether a barrier means that nothing is there: no such file, a bad descriptor, no directory
on the way, a loop of links. -/
def isAbsence (b : Barrier) : Bool := b.number ∈ [2, 9, 20, 40]

/-- What a barrier says of a path. -/
def message (b : Barrier) (path : Chars) : Chars :=
  "[Errno " ++ Chars.ofNat b.number ++ "] " ++ b.text ++
    if b.isNamed then ": " ++ Chars.quoted path else []

example : readOnly.message "a.cs" = "[Errno 30] Read-only file system: 'a.cs'" := by
  decide +kernel
example : noSpace.message "a.cs" = "[Errno 28] No space left on device" := by decide +kernel

end Barrier

/-- Files, directories, the working directory, and barriers. -/
structure Files where
  contents : Assoc (List Chars) Content := []
  directories : List (List Chars) := []
  here : List Chars := []
  barriers : Assoc (Access × FilePath) Barrier := []
deriving DecidableEq, Repr

/-- Why a file cannot be opened. -/
inductive FileFault where
  | missing (path : Chars)
  | directory (path : Chars)
  | notDirectory (path : Chars)
  | tooLong (path : Chars)
  | barrier (b : Barrier) (path : Chars)
  | zero
  | half (position count : Nat) (c : Char)
deriving DecidableEq, Repr

/-- Whether a fault is one of the file, not of what a program asks for. -/
def FileFault.isOfFile : FileFault → Bool
  | missing _ | directory _ | notDirectory _ | tooLong _ | barrier .. => true
  | zero | half .. => false

/-- What a fault says. -/
def FileFault.message : FileFault → Chars
  | missing p => "[Errno 2] No such file or directory: " ++ Chars.quoted p
  | directory p => "[Errno 21] Is a directory: " ++ Chars.quoted p
  | notDirectory p => "[Errno 20] Not a directory: " ++ Chars.quoted p
  | tooLong p => "[Errno 36] File name too long: " ++ Chars.quoted p
  | barrier b p => b.message p
  | zero => "embedded null byte"
  | half i n c =>
    let what : Chars :=
      if n = 1 then " '" ++ Chars.escape c ++ "' in position " ++ Chars.ofNat i
      else "s in position " ++ Chars.ofNat i ++ "-" ++ Chars.ofNat (i + n - 1)
    "'utf-8' codec can't encode character" ++ what ++ ": surrogates not allowed"

/-- Which characters stand for halves of surrogate pairs. -/
abbrev Halves := Char → Bool

namespace Halves

/-- What forbids to write a text: the first halves of surrogate pairs in a row, from one that
is not `free`. -/
def fault? (halves : Halves) (free : Char → Bool) (t : Chars) : Option FileFault :=
  match t.dropWhile fun c => !halves c || free c with
  | [] => none
  | c :: r => some (.half (t.length - r.length - 1) (1 + (r.takeWhile halves).length) c)

/-- What forbids to write a text as it is. -/
def textFault? (halves : Halves) (t : Chars) : Option FileFault :=
  halves.fault? (fun _ => false) t

/-- Whether a half of a surrogate pair stands for a byte in a path. -/
def isByte (c : Char) : Bool := 0xDC80 ≤ Chars.code c && Chars.code c ≤ 0xDCFF

/-- What forbids a path: halves of surrogate pairs, or a zero character. -/
def pathFault? (halves : Halves) (p : FilePath) : Option FileFault :=
  halves.fault? isByte p.text <|> if p.hasZero then some .zero else none

end Halves

/-- Where a path leads. -/
inductive Place where
  | reached (names : List Chars)
  | missing
  | throughFile
  | tooLong
deriving DecidableEq, Repr

namespace Files

/-- Whether names lead to a file. -/
def isFile (fs : Files) (names : List Chars) : Bool := fs.contents.has names

/-- Whether names lead to a directory. -/
def isDirectory (fs : Files) (names : List Chars) : Bool :=
  names.isPrefixOf fs.here || names ∈ fs.directories ||
    fs.contents.keys.any fun k => names.isPrefixOf k && k ≠ names

/-- Follows the parts of a path from a place; all but the last must be directories. -/
def follow (fs : Files) (names : List Chars) : List Chars → Place
  | [] => .reached names
  | part :: parts =>
    if fs.isFile names then .throughFile
    else if !fs.isDirectory names then .missing
    else if FilePath.isLongName part then .tooLong
    else follow fs (if part = "..".toList then names.dropLast else names ++ [part]) parts

/-- Where a path leads. -/
def locate (fs : Files) (p : FilePath) : Place :=
  if p.isLong then .tooLong else fs.follow (if p.root = [] then fs.here else []) p.parts

/-- What keeps a path from being used. -/
def barrier? (fs : Files) (a : Access) (p : FilePath) : Option Barrier := fs.barriers.get? (a, p)

/-- Whether something is at a path. -/
def has (fs : Files) (halves : Halves) (p : FilePath) : Except FileFault Bool :=
  if (halves.pathFault? p).isSome then .ok false
  else match fs.barrier? .look p with
    | some b => if b.isAbsence then .ok false else .error (.barrier b p.text)
    | none =>
      match fs.locate p with
      | .reached names => .ok (fs.isFile names || fs.isDirectory names)
      | .tooLong => .error (.tooLong p.text)
      | _ => .ok false

/-- The names that a path leads to, for some use of it. -/
def reach (fs : Files) (halves : Halves) (a : Access) (p : FilePath) :
    Except FileFault (List Chars) :=
  match halves.pathFault? p, fs.barrier? a p with
  | some f, _ => .error f
  | none, some b => .error (.barrier b p.text)
  | none, none =>
    match fs.locate p with
    | .reached names => if fs.isDirectory names then .error (.directory p.text) else .ok names
    | .missing => .error (.missing p.text)
    | .throughFile => .error (.notDirectory p.text)
    | .tooLong => .error (.tooLong p.text)

/-- Opens the file at a path to read it. -/
def open? (fs : Files) (halves : Halves) (p : FilePath) : Except FileFault Content := do
  let names ← fs.reach halves .read p
  match fs.contents.get? names with
  | some c => return c
  | none => throw (.missing p.text)

/-- The files with one more, or with another content of one. -/
def put (fs : Files) (names : List Chars) (c : Content) : Files :=
  { fs with contents := fs.contents.put names c }

/-- Writes a text to the file at a path: the files afterwards, and what forbids it. -/
def write (fs : Files) (halves : Halves) (p : FilePath) (t : Chars) :
    Files × Option FileFault :=
  match fs.reach halves .write p with
  | .error f => (fs, some f)
  | .ok names =>
    match halves.textFault? t with
    | some f => (fs.put names (.text []), some f)
    | none => (fs.put names (.text t), none)

end Files
end DraftScript
