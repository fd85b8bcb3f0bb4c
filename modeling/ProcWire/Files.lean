import ProcWire.Bytes

/-! # Files

A program sees files by their paths: a path leads to a file with contents, or it cannot be
read, for one of a few reasons.  `Files` is a small directory tree, given by the contents of its
files; a path is walked component by component, and every component but the last must be
a directory.  A path that does not begin at the root begins at the current directory.

A file is created in a directory that is there, and in the place of a file or of nothing.  Every
directory of such a tree may be searched and written to.
-/
namespace ProcWire

/-- Why a path cannot be read, or written to, as a file. -/
inductive FileFault where
  | missing
  /-- There is something at the path, but it may not be read. -/
  | denied
  /-- A directory on the way may not be searched, so what is at the path cannot be told. -/
  | unsearchable
  | directory
  /-- A component of the path before the last is no directory. -/
  | notDirectory
  /-- The path, or a component of it, is longer than any may be. -/
  | nameTooLong
  deriving DecidableEq, Repr

/-- The wording of a file fault. -/
def FileFault.message : FileFault → String
  | missing => "No such file or directory (os error 2)"
  | denied | unsearchable => "Permission denied (os error 13)"
  | directory => "Is a directory (os error 21)"
  | notDirectory => "Not a directory (os error 20)"
  | nameTooLong => "File name too long (os error 36)"

/-- What paths lead to. -/
abbrev FileView := String → Except FileFault Bytes

/-- A directory within a view, with the names in it as paths. -/
def FileView.within (view : FileView) (dir : String) : FileView := fun name =>
  view (if dir.endsWith "/" then dir ++ name else dir ++ "/" ++ name)

/-- A directory tree.  A place in it is a list of names, from the root on. -/
structure Files where
  /-- The files, by their places. -/
  contents : List (List String × Bytes) := []
  /-- The places of directories that are there even if no file is below them. -/
  directories : List (List String) := []
  /-- The place of the current directory. -/
  current : List String := []

namespace Files

/-- The components of a path. -/
def components (path : String) : List String :=
  (path.toList.splitOn '/').map String.ofList

/-- Where a path begins. -/
def start (files : Files) (path : String) : List String :=
  if path.startsWith "/" then [] else files.current

/-- The place that a component of a path leads to from a directory.  The root is its own parent. -/
def enter (place : List String) (component : String) : List String :=
  if component = "" ∨ component = "." then place
  else if component = ".." then place.dropLast
  else place ++ [component]

/-- The place that a path leads to if every component of it but the last is a directory. -/
def placeOf (files : Files) (path : String) : List String :=
  (components path).foldl enter (files.start path)

/-- Removes a file. -/
def remove (files : Files) (path : String) : Files :=
  { files with contents := files.contents.filter (·.1 != files.placeOf path) }

/-- The tree with a file at a path, whatever was there before.  No directory has to be made. -/
def write (files : Files) (path : String) (content : Bytes) : Files :=
  { files with contents := (files.placeOf path, content) :: (files.remove path).contents }

/-- Whether a place is that of a directory: it is known as one, or something is below it. -/
def isDirectory (files : Files) (place : List String) : Bool :=
  place.isPrefixOf files.current || files.directories.any (place.isPrefixOf ·) ||
    files.contents.any (place.isPrefixOf ·.1)

/-- What stands at a place in the tree. -/
def entry (files : Files) (place : List String) : Except FileFault Bytes :=
  match files.contents.lookup place with
  | some content => .ok content
  | none => if files.isDirectory place then .error .directory else .error .missing

/-- The most bytes that a component of a path may have. -/
def maxNameLength : Nat := 255

/-- The most bytes that a path may have. -/
def maxPathLength : Nat := 4095

/-- Walks a path from a place, to the place that it leads to. -/
def walk (files : Files) (place : List String) : List String → Except FileFault (List String)
  | [] => .ok place
  | component :: rest =>
    match files.entry place with
    | .ok _ => .error .notDirectory
    | .error .directory =>
      if component.utf8ByteSize > maxNameLength then .error .nameTooLong
      else walk files (enter place component) rest
    | .error fault => .error fault

/-- The place that a path leads to. -/
def resolve (files : Files) (path : String) : Except FileFault (List String) :=
  if path.isEmpty then .error .missing
  else if path.utf8ByteSize > maxPathLength then .error .nameTooLong
  else files.walk (files.start path) (components path)

/-- The view of a program that runs in the current directory. -/
def view (files : Files) : FileView := fun path => files.resolve path >>= files.entry

/-- Creates a file, or replaces the contents of the one that is there. -/
def create (files : Files) (path : String) (content : Bytes) : Except FileFault Files := do
  let place ← files.resolve path
  match files.entry place with
  | .error .directory => .error .directory
  | _ => .ok (files.write path content)

/-- What has been written is there. -/
theorem entry_write (files : Files) (path : String) (content : Bytes) :
    (files.write path content).entry (files.placeOf path) = .ok content := by
  simp [write, entry]

end Files

end ProcWire
