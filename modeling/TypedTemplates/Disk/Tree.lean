import TypedTemplates.Disk.Path

/-!
# Directories and files

A `FileTree` says what stands at each place below the root. A `Disk` is a file tree seen from a working directory,
with the operations on paths that a program has: look, read a text, write a text, make directories. A path leads to
a place only if every name on the way to it is that of a directory. The operations that change a disk meet its faults,
each of them the next one.
-/

namespace TypedTemplates

/-- What a file holds: a text in UTF-8, or bytes that are none. -/
inductive Content where
  | text (s : String)
  | bytes (bs : List UInt8)
  deriving DecidableEq, Repr

/-- The content with these bytes. -/
def Content.ofBytes (bs : ByteArray) : Content :=
  match String.fromUTF8? bs with
  | some s => .text s
  | none => .bytes bs.toList

/-- What is in a file into which only the first so many bytes of a text got. -/
def Content.beginning (text : String) (room : Nat) : Content :=
  .ofBytes (text.toUTF8.extract 0 room)

inductive Node where
  | directory
  | file (content : Content)
  deriving DecidableEq, Repr

/-- A place below the root, as the names on the way to it. -/
abbrev Place := List String

/-- The nodes below the root, each with its place. -/
structure FileTree where
  nodes : List (Place × Node)
  deriving DecidableEq, Repr, Inhabited

namespace FileTree

/-- What stands at a place. The root is a directory. -/
def node? (t : FileTree) (place : Place) : Option Node :=
  if place = [] then some .directory
  else (t.nodes.find? fun entry => entry.1 = place).map (·.2)

def isDirectory (t : FileTree) (place : Place) : Bool :=
  t.node? place = some .directory

/-- The tree with that node at that place. -/
def set (t : FileTree) (place : Place) (node : Node) : FileTree :=
  ⟨(place, node) :: t.nodes.filter fun entry => entry.1 ≠ place⟩

/-- The tree with nothing at that place and below it. -/
def remove (t : FileTree) (place : Place) : FileTree :=
  ⟨t.nodes.filter fun entry => !place.isPrefixOf entry.1⟩

/-- The place one name further. -/
def step (place : Place) (name : String) : Place :=
  if name = ".." then place.dropLast else place ++ [name]

/-- The longest name that a node may have, in bytes. -/
def maxNameLength : Nat := 255

/-- Where the names lead from a place. All but the last step must lead to directories. -/
def walk? (t : FileTree) (place : Place) : List String → Option Place
  | [] => some place
  | name :: names =>
    if t.isDirectory place && name.utf8ByteSize ≤ maxNameLength then t.walk? (step place name) names else none

theorem node?_set_self (t : FileTree) {place : Place} (node : Node) (h : place ≠ []) :
    (t.set place node).node? place = some node := by
  simp [node?, set, h]

theorem node?_set_of_ne (t : FileTree) {place other : Place} (node : Node) (h : place ≠ other) :
    (t.set place node).node? other = t.node? other := by
  unfold node? set
  split
  · rfl
  · rw [List.find?_cons_of_neg (by simpa using h), List.find?_filter]
    congr 2
    funext entry
    by_cases ho : entry.1 = other
    · simp [ho, Ne.symm h]
    · simp [ho]

end FileTree

/-- Why a file cannot be read or written. -/
inductive FileError where
  | missing
  | directory
  | notText
  | unreachable
  | refused
  | full
  deriving DecidableEq, Repr

def FileError.message : FileError → String
  | .missing => "no such file or directory"
  | .directory => "is a directory"
  | .notText => "is not valid UTF-8"
  | .unreachable => "cannot be created"
  | .refused => "was refused"
  | .full => "no space left"

/-- What can go wrong with an operation that would be possible. -/
inductive Fault where
  /-- It is refused, and nothing is done. -/
  | refused
  /-- There is room for so many bytes only, and for no directory. -/
  | full (room : Nat)
  deriving DecidableEq, Repr

def Fault.cause : Fault → FileError
  | .refused => .refused
  | .full _ => .full

/-- What goes wrong with the operations to come: an entry for each directory that is to be made and each file that is to
be written, `none` if all goes well with it. When the entries are used up, nothing goes wrong any more. -/
class Faults where
  coming : List (Option Fault)
  deriving DecidableEq, Repr, Inhabited

/-- A disk has no faults unless some are given. -/
instance : Faults := ⟨[]⟩

/-- A file tree and the directory from which relative paths start. -/
structure Disk where
  tree : FileTree
  workingDirectory : Place
  [faults : Faults]
  deriving DecidableEq, Repr, Inhabited

namespace Disk

/-- What goes wrong with the next operation, if anything. -/
def fault? (d : Disk) : Option Fault :=
  d.faults.coming.head?.join

/-- The disk when one more operation has been tried. -/
def proceed (d : Disk) : Disk :=
  { d with faults := ⟨d.faults.coming.tail⟩ }

/-- The disk with that node at that place. -/
def put (d : Disk) (place : Place) (node : Node) : Disk :=
  { d with tree := d.tree.set place node }

/-- The place from which the names of a path lead on. -/
def start (d : Disk) (p : Path) : Place :=
  if p.isAbsolute then [] else d.workingDirectory

/-- The longest text that can be a path, in bytes. -/
def maxPathLength : Nat := 4095

/-- Whether the text can be a path at all: it is neither empty nor too long, and has no null character. -/
def admits (p : Path) : Bool :=
  p.text ≠ "" && p.text.utf8ByteSize ≤ maxPathLength && !p.text.toList.contains '\x00'

/-- What a path leads to. -/
def look? (d : Disk) (p : Path) : Option Node :=
  if admits p then
    match (d.tree.walk? (d.start p) p.names).bind d.tree.node? with
    | some (.file content) => if p.meansDirectory then none else some (.file content)
    | found => found
  else none

def contains (d : Disk) (p : Path) : Bool :=
  (d.look? p).isSome

/-- The text of the file at a path. -/
def read (d : Disk) (p : Path) : Except FileError String :=
  match d.look? p with
  | some (.file (.text s)) => .ok s
  | some (.file (.bytes _)) => .error .notText
  | some .directory => .error .directory
  | none => .error .missing

/-- The place at which a file of that path is written, if its directory is there and it is no directory itself. -/
def target? (d : Disk) (p : Path) : Option Place :=
  if admits p && !p.meansDirectory && p.names.getLast? ≠ some ".." then
    match d.tree.walk? (d.start p) p.names with
    | some place => if d.tree.isDirectory place then none else some place
    | none => none
  else none

/-- Writes the text to the file at a path, and says whether that went well. The file is emptied first: if there is no
room for the text, the file holds the beginning of it. -/
def write (d : Disk) (p : Path) (text : String) : Except FileError Unit × Disk :=
  match d.target? p with
  | none => (.error .unreachable, d)
  | some place =>
    match d.fault? with
    | none => (.ok (), d.proceed.put place (.file (.text text)))
    | some .refused => (.error .refused, d.proceed)
    | some (.full room) =>
      if text.utf8ByteSize ≤ room then (.ok (), d.proceed.put place (.file (.text text)))
      else (.error .full, d.proceed.put place (.file (.beginning text room)))

/-- Makes the directories that are missing on the way along the names, and says whether the way is clear then. -/
def clearWay (d : Disk) (place : Place) : List String → Except FileError Unit × Disk
  | [] => (if d.tree.isDirectory place then .ok () else .error .unreachable, d)
  | name :: names =>
    if d.tree.isDirectory place && name.utf8ByteSize ≤ FileTree.maxNameLength then
      let next := FileTree.step place name
      match d.tree.node? next, d.fault? with
      | some _, _ => d.clearWay next names
      | none, none => (d.proceed.put next .directory).clearWay next names
      | none, some fault => (.error fault.cause, d.proceed)
    else (.error .unreachable, d)

/-- Makes the directory at a path and those above it, as far as they are missing, and says whether it is there then. -/
def makeDirectories (d : Disk) (p : Path) : Except FileError Unit × Disk :=
  if admits p then d.clearWay (d.start p) p.names else (.error .unreachable, d)

end Disk

end TypedTemplates
