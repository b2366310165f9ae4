import Tabletop.Files.Tree
import Tabletop.Settings.Failure

/-!
# Where the settings file is

The file that is named, by the caller or else by a variable of the environment, has to be there. If
none is named it is the nearest file of the usual name, from a directory upwards; there need not be
one.
-/

set_option autoImplicit false

namespace Tabletop

/-- How deep a text may be nested that is read by calls within calls: what the limit of the
interpreter leaves of them where the settings are put together. The usual numbers are those of a
call from the command line. -/
structure Nesting where
  json : Nat := 975
  toml : Nat := 970
  deriving DecidableEq, Repr

/-- What the program finds around it: files, the entries of its environment, and how deep texts may
be nested. -/
structure Surroundings where
  tree : FileTree
  environment : List (String × String)
  nesting : Nesting := {}

namespace Settings

/-- The usual name of a settings file. -/
def fileName : String := "robosim.toml"

/-- The variable that names a settings file. -/
def fileVariable : String := "ROBOSIM_CONFIG"

/-- The file that is named, by the caller or else by the environment; an empty name is none. -/
def namedFile? (explicit byVariable : Option String) : Option String :=
  explicit.filter (· != "") <|> byVariable.filter (· != "")

/-- The first of some directories that holds a settings file. -/
def firstHolding (tree : FileTree) : List (List String) → Except PathFailure (Option Path)
  | [] => .ok none
  | place :: places =>
    let candidate := Path.absolute (place ++ [fileName])
    match tree.isFile candidate with
    | .error failure => .error failure
    | .ok true => .ok (some candidate)
    | .ok false => firstHolding tree places

/-- The place of a directory from the root. -/
def startPlace (tree : FileTree) (start : Option Path) : Except PathFailure (List String) :=
  match start with
  | some path =>
    if Path.holdsZero path.text then .error ⟨.holdsZero, path.text⟩
    else .ok (path.resolve tree.workingDirectory)
  | none => .ok tree.workingDirectory

/-- The settings file, if there is one to go by. -/
def locate (around : Surroundings) (explicit : Option String) (start : Option Path) :
    Except SettingsFailure (Option Path) :=
  match namedFile? explicit (List.lookup fileVariable around.environment) with
  | some name =>
    let path := Path.ofText name
    match around.tree.isFile path with
    | .error failure => .error (.unfollowed failure)
    | .ok true => .ok (some path)
    | .ok false => .error (.noFile path)
  | none =>
    let nearest := startPlace around.tree start >>= fun place =>
      firstHolding around.tree (FileTree.upwards place)
    match nearest with
    | .error failure => .error (.unfollowed failure)
    | .ok found => .ok found

/-- The tables of a settings file in which values may be nested so many levels deep, none if there
is no file. -/
def fileLayer (levels : Nat) (tree : FileTree) : Option Path → Except SettingsFailure Fields
  | none => .ok []
  | some path =>
    match tree.read path with
    | .error failure => .error (.unfollowed failure)
    | .ok bytes =>
      match Text.Utf8.decode bytes with
      | .error fault => .error (.undecodable fault)
      | .ok text =>
        match Toml.read levels text with
        | .error misreading => .error (.notToml path misreading)
        | .ok tables => .ok tables

end Settings

end Tabletop
