import Tabletop.Files.Failure
import Tabletop.Files.Path
import Tabletop.Text.Utf8

/-!
# Trees of files

A tree holds directories and files, each at the names that lead to it from the root, and the
directory from which relative paths are followed. A path is followed name by name: each name but
the last has to lead to a directory, and no name may be longer than a file system takes.

A failure names the path as it was written.
-/

set_option autoImplicit false

namespace Tabletop

/-- A tree of files. -/
structure FileTree where
  directories : List (List String)
  files : List (List String × List UInt8)
  workingDirectory : List String
  deriving DecidableEq, Repr

/-- What stands at a place of a tree. -/
inductive FileNode where
  | directory
  | file (bytes : List UInt8)
  deriving DecidableEq, Repr

namespace FileTree

/-- The greatest number of bytes of a name. -/
def maxNameLength : Nat := 255

/-- The greatest number of bytes of a path. -/
def maxPathLength : Nat := 4095

/-- What stands at the names from the root. The root is a directory. -/
def node? (tree : FileTree) (place : List String) : Option FileNode :=
  if place.isEmpty || tree.directories.contains place then some .directory
  else (List.lookup place tree.files).map .file

/-- What the names lead to from a place. -/
def follow (tree : FileTree) : List String → List String → Except PathCause FileNode
  | place, [] =>
    match tree.node? place with
    | some node => .ok node
    | none => .error .notFound
  | place, name :: names =>
    match tree.node? place with
    | none => .error .notFound
    | some (.file _) => .error .notADirectory
    | some .directory =>
      if maxNameLength < name.utf8ByteSize then .error .nameTooLong
      else follow tree (Path.enter place name) names

/-- What a path leads to that is written so. -/
def stat (tree : FileTree) (text : String) : Except PathCause FileNode :=
  let path := Path.ofText text
  if Path.holdsZero text then .error .holdsZero
  else if maxPathLength < text.utf8ByteSize then .error .nameTooLong
  else if text = "" then .error .notFound
  else tree.follow (if path.start = .relative then tree.workingDirectory else []) path.names

/-- The bytes of the file at a path. -/
def read (tree : FileTree) (path : Path) : Except PathFailure (List UInt8) :=
  match tree.stat path.text with
  | .ok (.file bytes) => .ok bytes
  | .ok .directory => .error ⟨.isADirectory, path.text⟩
  | .error cause => .error ⟨cause, path.text⟩

/-- Whether a path leads to a file. That it leads to nothing is no failure, that it cannot be
followed for the length of a name is one. -/
def isFile (tree : FileTree) (path : Path) : Except PathFailure Bool :=
  match tree.stat path.text with
  | .ok (.file _) => .ok true
  | .ok .directory => .ok false
  | .error .nameTooLong => .error ⟨.nameTooLong, path.text⟩
  | .error _ => .ok false

theorem isFile_eq_true_iff {tree : FileTree} {path : Path} :
    tree.isFile path = .ok true ↔ ∃ bytes, tree.read path = .ok bytes := by
  unfold isFile read
  cases tree.stat path.text with
  | ok node => cases node <;> simp
  | error cause => cases cause <;> simp

/-- The place with another above it, and so on up to the root. -/
def upwards (place : List String) : List (List String) :=
  (List.range (place.length + 1)).map fun n => place.take (place.length - n)

/-- Whether a place holds a file. -/
def holdsFile (tree : FileTree) (place : List String) : Bool :=
  match tree.node? place with
  | some (.file _) => true
  | _ => false

end FileTree

end Tabletop
