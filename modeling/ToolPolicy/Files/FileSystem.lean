import ToolPolicy.Fault
import ToolPolicy.Files.Path

/-!
# File systems

A file system says for every place what is there: a file with its bytes, a directory, or nothing. A
place is given by the names that lead to it from the root. Following a path goes through it name by
name, so it can fail on the way: `FileSystem.locate` says where it ends or which failure stops it,
and `FileSystem.read` gives the bytes of the file at the end.

Main statement: `node?_set_of_ne` (what is put at a place leaves every other place as it was).
-/

namespace ToolPolicy

/-- What is at a place. -/
inductive FileSystem.Node where
  | file (bytes : List UInt8)
  | directory
  deriving DecidableEq, Repr

/-- Why there is no file to read at the end of a path. -/
inductive FileFailure where
  | notFound
  | notDirectory
  | isDirectory
  | nameTooLong
  deriving DecidableEq, Repr

namespace FileFailure

/-- The number under which systems know a failure. -/
def number : FileFailure → Nat
  | notFound => 2
  | notDirectory => 20
  | isDirectory => 21
  | nameTooLong => 36

/-- The words for a failure. -/
def words : FileFailure → Text
  | notFound => "No such file or directory"
  | notDirectory => "Not a directory"
  | isDirectory => "Is a directory"
  | nameTooLong => "File name too long"

/-- The text of a failure at a path. -/
def message (f : FileFailure) (path : Path) : Text :=
  "[Errno " ++ Text.ofNat f.number ++ "] " ++ f.words ++ ": " ++ Text.quote path.text

end FileFailure

/-- The places of a file system, and the place from which relative paths start. -/
structure FileSystem where
  workingDirectory : List Text
  node? : List Text → Option FileSystem.Node

namespace FileSystem

/-! ## Contents -/

/-- The root and the directories that lead to the working directory, and nothing else. -/
def empty (workingDirectory : List Text) : FileSystem where
  workingDirectory
  node? place := if place.isPrefixOf workingDirectory then some .directory else none

/-- The file system with something else at one place. -/
def set (fs : FileSystem) (place : List Text) (node : Option Node) : FileSystem :=
  { fs with node? := fun p => if p = place then node else fs.node? p }

/-- Makes a place a directory, unless something is there. -/
def makeDirectory (fs : FileSystem) (place : List Text) : FileSystem :=
  match fs.node? place with
  | some _ => fs
  | none => fs.set place (some .directory)

/-- The places above a place, from the root downwards. -/
def above (place : List Text) : List (List Text) := (List.range place.length).map place.take

/-- Puts something at a place, with directories that lead there. -/
def put (fs : FileSystem) (place : List Text) (node : Node) : FileSystem :=
  ((above place).foldl makeDirectory fs).set place (some node)

/-- Takes away what is at a place and everything below it. -/
def remove (fs : FileSystem) (place : List Text) : FileSystem :=
  { fs with node? := fun p => if place.isPrefixOf p then none else fs.node? p }

/-- The place that a path names if every directory in it is there. -/
def placeOf (fs : FileSystem) (p : Path) : List Text :=
  Path.collapse (if p.isAbsolute then p.parts else fs.workingDirectory ++ p.parts)

/-- A path as an absolute path without dots. -/
def resolve (fs : FileSystem) (p : Path) : Path := ⟨1, fs.placeOf p⟩

/-! ## Following paths -/

/-- Whether a code point is half of a surrogate pair that stands for a byte of a name. -/
def isByteOfName (c : CodePoint) : Bool := 0xDC80 ≤ c && c ≤ 0xDCFF

/-- The number of bytes of a code point in a name. -/
def byteCount (c : CodePoint) : Nat :=
  if c < 0x80 || isByteOfName c then 1
  else if c < 0x800 then 2
  else if c < 0x10000 then 3
  else 4

/-- The number of bytes of a name. -/
def nameSize (name : Text) : Nat := name.weight byteCount

/-- The largest number of bytes of a name. -/
def nameLimit : Nat := 255

/-- The largest number of bytes of a path. -/
def pathLimit : Nat := 4095

/-- The place where some names lead from another place. -/
def locate (fs : FileSystem) (place : List Text) : List Text → Except FileFailure (List Text)
  | [] => .ok place
  | name :: rest =>
    match fs.node? place with
    | none => .error .notFound
    | some (.file _) => .error .notDirectory
    | some .directory =>
      if name = Path.dots then fs.locate place.dropLast rest
      else if nameSize name > nameLimit then .error .nameTooLong
      else if (fs.node? (place ++ [name])).isNone then .error .notFound
      else fs.locate (place ++ [name]) rest

/-- The place to which a path leads. -/
def follow (fs : FileSystem) (p : Path) : Except FileFailure (List Text) :=
  if nameSize p.text > pathLimit then .error .nameTooLong
  else fs.locate (if p.isAbsolute then [] else fs.workingDirectory) p.parts

/-- The fault of a text that cannot be the name of anything. -/
def nameFault? (t : Text) : Option Fault :=
  match t.findIdx? fun c => CodePoint.isSurrogate c && !isByteOfName c with
  | some position => some (.unencodable t position)
  | none => if t.contains 0 then some .nulInPath else none

/-- The bytes of the file at a place. -/
def bytesAt (fs : FileSystem) (place : List Text) : Except FileFailure (List UInt8) :=
  match fs.node? place with
  | none => .error .notFound
  | some .directory => .error .isDirectory
  | some (.file bytes) => .ok bytes

/-- The bytes of the file at the end of a path. -/
def read (fs : FileSystem) (p : Path) : Except Fault (Except FileFailure (List UInt8)) :=
  match nameFault? p.text with
  | some f => .error f
  | none => .ok ((fs.follow p).bind fs.bytesAt)

/-- Whether a path leads to something. -/
def contains (fs : FileSystem) (p : Path) : Bool :=
  match fs.follow p with
  | .ok place => (fs.node? place).isSome
  | .error _ => false

/-! ## Small laws -/

@[simp] theorem node?_set_self (fs : FileSystem) (place : List Text) (node : Option Node) :
    (fs.set place node).node? place = node := by
  simp [set]

theorem node?_set_of_ne (fs : FileSystem) {place other : List Text} (h : other ≠ place)
    (node : Option Node) : (fs.set place node).node? other = fs.node? other := by
  simp [set, h]

@[simp] theorem node?_put_self (fs : FileSystem) (place : List Text) (node : Node) :
    (fs.put place node).node? place = some node := by
  simp [put]

end FileSystem

end ToolPolicy
