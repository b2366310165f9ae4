import Tabletop.Files.Path
import Tabletop.Json.Depth
import Tabletop.Source.Failure
import Tabletop.Toml.Document
import Tabletop.Validation.Problem

/-!
# Failures of the settings

Why the settings cannot be put together. Most failures are the fault of whoever wrote the settings
and are told as such (`isUsage`); the others end the program.
-/

set_option autoImplicit false

namespace Tabletop

/-- Why the settings cannot be put together. -/
inductive SettingsFailure where
  /-- The named file is not there. -/
  | noFile (path : Path)
  /-- The path to a file cannot be followed. -/
  | unfollowed (failure : PathFailure)
  /-- The file is no UTF-8. -/
  | undecodable (fault : Text.Utf8.Fault)
  /-- The file is no TOML. -/
  | notToml (path : Path) (misreading : Toml.Misreading)
  /-- A variable for a section does not hold JSON. -/
  | notJson (field : String)
  /-- A variable for a section holds JSON that is nested too deep. -/
  | deepJson (container : Json.Container)
  /-- A setting has no value of its kind. -/
  | invalid (problem : Problem)

/-- The word of a container. -/
def Json.Container.word : Json.Container → String
  | .list => "array"
  | .record => "object"

namespace SettingsFailure

/-- Whether a failure is told as a fault of the user. -/
def isUsage : SettingsFailure → Bool
  | .noFile _ => true
  | .notToml _ ⟨_, .syntactic ..⟩ => true
  | .invalid _ => true
  | _ => false

/-- A failure in words. -/
def message : SettingsFailure → String
  | .noFile path => "Config file not found: " ++ path.text
  | .unfollowed failure => failure.message
  | .undecodable fault => fault.message
  | .notToml path misreading =>
    match misreading.fault with
    | .syntactic .. => "Invalid TOML in " ++ path.text ++ ": " ++ misreading.text
    | _ => misreading.text
  | .notJson field =>
    "error parsing value for field \"" ++ field ++ "\" from source \"EnvSettingsSource\""
  | .deepJson container =>
    "maximum recursion depth exceeded while decoding a JSON " ++ container.word ++
      " from a unicode string"
  | .invalid problem =>
    "Invalid configuration for " ++ problem.place ++ ": " ++ problem.cause.text

end SettingsFailure

end Tabletop
