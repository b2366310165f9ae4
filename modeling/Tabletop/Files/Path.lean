import Tabletop.Text.Blank

/-!
# Paths

A path is relative, or starts from the root with one slash or with exactly two. The names between
its slashes are kept in order; empty names and single dots say nothing and are dropped, double dots
are kept.
-/

set_option autoImplicit false

namespace Tabletop

/-- How a path starts. -/
inductive PathStart where
  | relative
  | root
  /-- From the root, with two slashes. -/
  | doubleRoot
  deriving DecidableEq, Repr

/-- A path. -/
structure Path where
  start : PathStart
  names : List String
  deriving DecidableEq, Repr

namespace Path

/-- The names of a path as it is written, less those that say nothing. -/
def namesOf (text : String) : List String :=
  ((Text.splitOn '/' text.toList).map String.ofList).filter fun name => name != "" && name != "."

/-- How a path starts that is written so. -/
def startOf : List Char → PathStart
  | '/' :: '/' :: '/' :: _ => .root
  | '/' :: '/' :: _ => .doubleRoot
  | '/' :: _ => .root
  | _ => .relative

/-- The path that is written so. -/
def ofText (text : String) : Path where
  start := startOf text.toList
  names := namesOf text

/-- What a start is written as. -/
def startText : PathStart → String
  | .relative => ""
  | .root => "/"
  | .doubleRoot => "//"

/-- A path in text; the path of nothing at all is a dot. -/
def text (path : Path) : String :=
  if path.start = .relative ∧ path.names = [] then "."
  else startText path.start ++ Text.join "/" path.names

/-- Whether there is a zero in a text, which no path that is written so can hold. -/
def holdsZero (text : String) : Bool :=
  text.toList.contains '\x00'

/-- An absolute path of names. -/
def absolute (names : List String) : Path where
  start := .root
  names := names

/-- One name further, where double dots lead back. -/
def enter (place : List String) (name : String) : List String :=
  if name = ".." then place.dropLast else place ++ [name]

/-- The names of a path from the root, seen from a directory, without double dots. -/
def resolve (directory : List String) (path : Path) : List String :=
  path.names.foldl enter (if path.start = .relative then directory else [])

end Path

end Tabletop
