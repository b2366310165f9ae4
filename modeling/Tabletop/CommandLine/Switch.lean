/-!
# Switches

The words of a command line that set something. Some stand by themselves, others take a value. Each
scope has switches of its own: the program as a whole, and each of its two tasks. A switch has a
long name, and some have a letter too.
-/

set_option autoImplicit false

namespace Tabletop.CommandLine

/-- What the program can be asked to do. -/
inductive Task where
  /-- Drive a robot by the lines of a script. -/
  | run
  /-- Look for malformed lines in a script. -/
  | check
  deriving DecidableEq, Repr

/-- The name of a task. -/
def Task.name : Task → String
  | run => "run"
  | check => "check"

/-- All tasks. -/
def Task.all : List Task :=
  [.check, .run]

/-- The task of a name. -/
def Task.ofName? (name : String) : Option Task :=
  all.find? fun task => task.name == name

/-- What the words of a command line belong to. -/
inductive Scope where
  | program
  | task (task : Task)
  deriving DecidableEq, Repr

/-- The name of the program. -/
def programName : String := "robosim"

/-- The words that lead to a scope. -/
def Scope.path : Scope → String
  | program => programName
  | task which => programName ++ " " ++ which.name

/-- A word that sets something. -/
inductive Switch where
  | version
  | json
  | quiet
  | verbose
  | logJson
  | config
  | width
  | height
  | examples
  | help
  deriving DecidableEq, Repr

namespace Switch

/-- The long name of a switch. -/
def long : Switch → String
  | version => "--version"
  | json => "--json"
  | quiet => "--quiet"
  | verbose => "--verbose"
  | logJson => "--log-json"
  | config => "--config"
  | width => "--width"
  | height => "--height"
  | examples => "--examples"
  | help => "--help"

/-- The letter of a switch. -/
def letter? : Switch → Option Char
  | quiet => some 'q'
  | verbose => some 'v'
  | config => some 'c'
  | _ => none

/-- Whether a switch takes a value. -/
def takesValue : Switch → Bool
  | config | width | height => true
  | _ => false

end Switch

namespace Scope

/-- The switches of a scope. -/
def switches : Scope → List Switch
  | program => [.version, .json, .quiet, .verbose, .logJson, .config, .help]
  | task .run => [.width, .height, .examples, .help]
  | task .check => [.examples, .help]

/-- The switch with a long name. -/
def ofLong? (scope : Scope) (name : String) : Option Switch :=
  scope.switches.find? fun switch => switch.long == name

/-- The switch with a letter. -/
def ofLetter? (scope : Scope) (letter : Char) : Option Switch :=
  scope.switches.find? fun switch => switch.letter? == some letter

end Scope

end Tabletop.CommandLine
