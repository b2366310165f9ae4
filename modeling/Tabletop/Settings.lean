import Tabletop.Settings.Environment
import Tabletop.Settings.Location
import Tabletop.Validation.Domain

/-!
# Settings

How a run is set up: the board, how strictly lines are read, and how results and records are
written. Settings come in layers: flags lie over the environment, the environment over a file, and
the file over what holds where nothing is said. Each single setting is taken from the highest layer
that gives it.

Only what comes out on top is read as a value of its kind, and the first problem with it is told.
-/

set_option autoImplicit false

namespace Tabletop

open Validated (both)

/-- How a run is set up. -/
structure Settings where
  configPath : Option Path
  jsonOutput : Bool
  quiet : Bool
  verbose : Bool
  logJson : Bool
  board : Board
  mode : Mode
  deriving DecidableEq, Repr

namespace Settings

/-- The names of all settings, in order. -/
def names : List String :=
  plainNames ++ sections.map Prod.fst

/-- The problems of the settings that nobody knows. -/
def unknown (fields : Fields) : Validated Unit :=
  match (fields.keys.filter fun key => !names.contains key) with
  | [] => .ok ()
  | key :: keys => .error ⟨⟨[key], .unexpected⟩, keys.map fun key => ⟨[key], .unexpected⟩⟩

/-- Settings from fields, with the file they were read from. -/
def ofFields (configPath : Option Path) (fields : Fields) : Validated Settings := do
  let flag (key : String) : Validated Bool := fields.optional key false readBoolean
  let (jsonOutput, quiet, verbose, logJson, board, mode, _) ←
    both (flag "json_output")
      (both (flag "quiet")
        (both (flag "verbose")
          (both (flag "log_json")
            (both (fields.optional "board" Board.standard BoardConfig.ofValue)
              (both (fields.optional "parser" Mode.strict Mode.ofValue) (unknown fields))))))
  .ok ⟨configPath, jsonOutput, quiet, verbose, logJson, board, mode⟩

/-- Fields in layers, the highest first, as one: each layer is laid under what those above it come
to. -/
def merge (layers : List Fields) : Fields :=
  layers.foldl Fields.over []

/-- The settings for a run, with the flags of the caller as the highest layer. -/
def load (around : Surroundings) (explicit : Option String) (start : Option Path)
    (flags : Fields) : Except SettingsFailure Settings := do
  let path ← locate around explicit start
  let file ← fileLayer around.nesting.toml around.tree path
  let environment ← environmentLayer around.nesting.json around.environment
  let fields := merge [flags, environment, file]
  match ofFields path (fields.filter fun field => field.1 != "config_path") with
  | .ok settings => .ok settings
  | .error problems => .error (.invalid problems.first)

end Settings

end Tabletop
