import Tabletop.CommandLine.Page
import Tabletop.Text.Quoted

/-!
# Faults of a command line

Why the words of a command line cannot be carried out. Most faults are told with a reminder of how
the scope is used; that a value is missing or not wanted is told by itself.
-/

set_option autoImplicit false

namespace Tabletop.CommandLine

/-- Why words cannot be carried out. -/
inductive Fault where
  /-- There is no such switch, but perhaps others like it. -/
  | unknownSwitch (name : String) (others : List String)
  /-- There is no such task, but perhaps others like it. -/
  | unknownTask (name : String) (others : List String)
  /-- No word follows that could be the value of a switch. -/
  | noValue (name : String)
  /-- A switch was given a value that it does not take. -/
  | unwantedValue (name : String)
  /-- The value of a switch is no integer. -/
  | notInteger (switch : Switch) (value : String)
  /-- The value of a switch is less than one. -/
  | notPositive (switch : Switch) (value : Int)
  /-- The word for a file leads to a directory. -/
  | directory (title word : String)
  /-- There is no word for a file. -/
  | noFile
  /-- There are more words than are wanted. -/
  | unwantedWords (first : String) (others : List String)
  deriving DecidableEq, Repr

namespace Fault

/-- Words that may have been meant. -/
def offer : List String → String
  | [] => ""
  | [name] => " Did you mean " ++ Text.quoted name ++ "?"
  | names => " (Did you mean one of: " ++ ", ".intercalate (names.map Text.quoted) ++ "?)"

/-- The value of a switch at fault. -/
def invalid (title : String) (reason : String) : String :=
  "Invalid value for '" ++ title ++ "': " ++ reason

/-- A fault in words. -/
def message : Fault → String
  | unknownSwitch name others => "No such option " ++ Text.quoted name ++ "." ++ offer others
  | unknownTask name others => "No such command " ++ Text.quoted name ++ "." ++ offer others
  | noValue name => "Option " ++ Text.quoted name ++ " requires an argument."
  | unwantedValue name => "Option " ++ Text.quoted name ++ " does not take a value."
  | notInteger switch value =>
    invalid switch.long (Text.quoted value ++ " is not a valid integer range.")
  | notPositive switch value =>
    invalid switch.long (toString value ++ " is not in the range x>=1.")
  | directory title word => invalid title ("File " ++ Text.quoted word ++ " is a directory.")
  | noFile => "Missing argument 'FILE'."
  | unwantedWords first [] => "Got unexpected extra argument (" ++ first ++ ")"
  | unwantedWords first others =>
    "Got unexpected extra arguments (" ++ " ".intercalate (first :: others) ++ ")"

/-- Whether a fault is told with a reminder of how the scope is used. -/
def recallsUsage : Fault → Bool
  | noValue _ | unwantedValue _ => false
  | _ => true

/-- What is told about a fault, as lines. -/
def report (scope : Scope) (fault : Fault) : List String :=
  (if fault.recallsUsage then
    [scope.usage ++ "\nTry '" ++ scope.path ++ " --help' for help.\n"]
  else []) ++ ["Error: " ++ fault.message]

end Fault

end Tabletop.CommandLine
