import ModuleHost.Bytes
import ModuleHost.Text.Blank

/-!
# Files

A path is followed name by name, from the root or from the directory in which the program runs.

* `ReadFault`, `ReadFault.message` — why a file cannot be read;
* `Files` — the files within reach;
* `Disk` — files and directories by the names that lead to them;
* `Disk.locate`, `Disk.files` — where a path leads; the files of a disk as those within reach.
-/

namespace ModuleHost.CommandLine

/-- Why a file cannot be read. -/
inductive ReadFault where
  | notFound
  | denied
  /-- The path goes on behind a file. -/
  | notDirectory
  | isDirectory
  | nameTooLong
  /-- The file does not hold text. -/
  | notText
  | other (reason : String)
  deriving DecidableEq, Repr

/-- The text that is shown. -/
def ReadFault.message : ReadFault → String
  | .notFound => "No such file or directory (os error 2)"
  | .denied => "Permission denied (os error 13)"
  | .notDirectory => "Not a directory (os error 20)"
  | .isDirectory => "Is a directory (os error 21)"
  | .nameTooLong => "File name too long (os error 36)"
  | .notText => "stream did not contain valid UTF-8"
  | .other reason => reason

/-- The files within reach, by path. -/
abbrev Files := String → Except ReadFault Bytes

/-! ## Disks -/

/-- A place on a disk: the names that lead to it from the root. -/
abbrev Place := List (List Char)

/-- The place of an absolute path. -/
def Place.ofPath (path : String) : Place :=
  (Text.splitAt '/' path.toList).filter fun name => !name.isEmpty

/-- Files, and directories beside those that lead to them. -/
structure Disk where
  contents : List (Place × Bytes)
  directories : List Place := []
  /-- The directory in which relative paths begin. -/
  home : Place := []

namespace Disk

/-- Whether a place is a directory: the root, one that leads to something, or one that is listed. -/
def isDirectory (d : Disk) (p : Place) : Bool :=
  p.isEmpty || p.isPrefixOf d.home || d.directories.any (p.isPrefixOf ·) ||
    d.contents.any fun f => p.isPrefixOf f.1 && p ≠ f.1

/-- Whether there is something at a place. -/
def occupied (d : Disk) (p : Place) : Bool := d.isDirectory p || (d.contents.lookup p).isSome

/-- The greatest number of bytes in a name. -/
def maxNameSize : Nat := 255

/-- The greatest number of bytes in a path. -/
def maxPathSize : Nat := 4095

/-- Goes from a place to what a name in it stands for. -/
def step (d : Disk) (p : Place) (name : List Char) : Except ReadFault Place :=
  if !d.isDirectory p then .error .notDirectory
  else if name = [] ∨ name = ['.'] then .ok p
  else if name = ['.', '.'] then .ok p.dropLast
  else if maxNameSize < (String.ofList name).utf8ByteSize then .error .nameTooLong
  else if d.occupied (p ++ [name]) then .ok (p ++ [name])
  else .error .notFound

/-- Where a path leads. -/
def locate (d : Disk) (path : String) : Except ReadFault Place :=
  if path.isEmpty then .error .notFound
  else if maxPathSize < path.utf8ByteSize then .error .nameTooLong
  else
    match Text.splitAt '/' path.toList with
    | [] :: names => names.foldlM d.step []
    | names => names.foldlM d.step d.home

/-- The files of a disk. -/
def files (d : Disk) : Files := fun path => do
  let p ← d.locate path
  match d.contents.lookup p with
  | some bytes => return bytes
  | none => throw .isDirectory

end Disk

end ModuleHost.CommandLine
