import Tabletop.Json.Depth
import Tabletop.Settings.Failure

/-!
# Settings from the environment

A variable with the usual first part names a setting, in any case. A variable for a whole section
holds a record in JSON, and each variable with two underscores between the section and a name lays a
value over it. A section that is given as null counts for nothing.
-/

set_option autoImplicit false

namespace Tabletop.Settings

/-- The first part of the name of a variable, in lower case. -/
def variableStart : String := "robosim_"

/-- A text in ASCII lower case. -/
def lowerCase (text : String) : String :=
  String.ofList (Text.lower text.toList)

/-- The entries of the environment by their names in lower case; of two that differ in case only the
later one holds. -/
def lowered (environment : List (String × String)) : Fields :=
  environment.foldl (fun fields entry => fields.put (lowerCase entry.1) (.text entry.2)) []

/-- The pieces of a name between two underscores. -/
def splitAtDouble : List Char → List (List Char)
  | '_' :: '_' :: rest => [] :: splitAtDouble rest
  | c :: rest =>
    match splitAtDouble rest with
    | [] => [[c]]
    | piece :: pieces => (c :: piece) :: pieces
  | [] => [[]]

/-- A value put at the end of a row of names. A text on the way is kept, a record at the end is
not. -/
def putDeep (fields : Fields) : List String → Value → Fields
  | [], _ => fields
  | [name], value => fields.put name value
  | name :: next :: names, value =>
    match fields.get? name with
    | none => fields.put name (.record (putDeep [] (next :: names) value))
    | some (.record inner) => fields.put name (.record (putDeep inner (next :: names) value))
    | some _ => fields

/-- The values that the environment lays over a section. -/
def refinements (entries : Fields) (field : String) : Fields :=
  let start := (variableStart ++ field ++ "__").toList
  entries.foldl
    (fun fields entry =>
      if start.isPrefixOf entry.1.toList then
        putDeep fields ((splitAtDouble (entry.1.toList.drop start.length)).map String.ofList)
          entry.2
      else fields) []

/-- A section with the names of its settings in their own case, whatever case they were given in. -/
def matchNames (names : List String) (fields : Fields) : Fields :=
  fields.foldl
    (fun found field =>
      match names.find? fun name => name == lowerCase field.1 with
      | some name => found.put name field.2
      | none => found.put field.1 field.2) []

/-- A section as the environment gives it, if it does, where the JSON of a variable may be nested so
deep. -/
def sectionValue (depth : Nat) (entries : Fields) (field : String) (names : List String) :
    Except SettingsFailure (Option Value) :=
  let laidOver := refinements entries field
  match entries.get? (variableStart ++ field) with
  | some (.text json) =>
    match Json.readWithin depth json with
    | .error .malformed => .error (.notJson field)
    | .error (.tooDeep container) => .error (.deepJson container)
    | .ok .null => .ok none
    | .ok (.record fields) =>
      .ok (some (.record (matchNames names (Fields.over laidOver fields))))
    | .ok other => .ok (some other)
  | _ =>
    if laidOver.isEmpty then .ok none
    else .ok (some (.record (matchNames names laidOver)))

/-- The sections and the names of their settings. -/
def sections : List (String × List String) :=
  [("board", ["width", "height"]), ("parser", ["lenient"])]

/-- The settings that stand in no section. -/
def plainNames : List String :=
  ["config_path", "json_output", "quiet", "verbose", "log_json"]

/-- The sections that the environment gives. -/
def sectionFields (depth : Nat) (entries : Fields) :
    List (String × List String) → Except SettingsFailure Fields
  | [] => .ok []
  | (field, names) :: rest =>
    match sectionValue depth entries field names with
    | .error failure => .error failure
    | .ok value =>
      match sectionFields depth entries rest with
      | .error failure => .error failure
      | .ok fields => .ok ((value.toList.map fun given => (field, given)) ++ fields)

/-- The settings that the environment gives, where the JSON of a variable may be nested so deep. -/
def environmentLayer (depth : Nat) (environment : List (String × String)) :
    Except SettingsFailure Fields :=
  let entries := lowered environment
  let plain := plainNames.filterMap fun name =>
    (entries.get? (variableStart ++ name)).map fun value => (name, value)
  match sectionFields depth entries sections with
  | .error failure => .error failure
  | .ok fields => .ok (plain ++ fields)

end Tabletop.Settings
