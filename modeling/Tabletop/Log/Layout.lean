import Tabletop.Json.Printer
import Tabletop.Log.Record
import Tabletop.Text.Alphabet

/-!
# The layout of log lines

A record is written on the console as its time, its level, its message and its logger in columns,
then the fields that came with it, sorted by name, and on lines of their own the calls that led to
it and the failure that caused it. As JSON it is one record on one line, with all its fields.
-/

set_option autoImplicit false

namespace Tabletop.Log

/-- How records are written. -/
inductive Layout where
  | console
  | json
  deriving DecidableEq, Repr

/-- A text filled up with spaces at its end to a least length. -/
def padRight (width : Nat) (text : String) : String :=
  text ++ String.ofList (List.replicate (width - text.length) ' ')

/-- A character for which a text is put in quotes on the console. -/
def needsQuotes (c : Char) : Bool :=
  c = ' ' || c = '\t' || c = '=' || c = '\r' || c = '\n' || c = '"' || c = '\''

/-- The value of a field on the console. -/
def consoleValue : Value → String
  | .text string => if string.toList.any needsQuotes then Text.quoted string else string
  | value => value.literal

/-- Where a field goes among fields that are sorted by name. -/
def insertField (field : String × Value) : Fields → Fields
  | [] => [field]
  | next :: rest =>
    if Text.inOrder field.1 next.1 then field :: next :: rest else next :: insertField field rest

/-- Fields sorted by name. -/
def sortFields (fields : Fields) : Fields :=
  fields.foldr insertField []

/-- The names of fields that have a place of their own on the console, or none. -/
def placedFields : List String :=
  ["timestamp", "level", "event", "logger", "logger_name", "stack", "exception", "exc_info"]

/-- The other name that a record gives its logger, in brackets. -/
def otherLogger (context : Fields) : String :=
  match context.get? "logger_name" with
  | some name => " [" ++ name.display ++ "]"
  | none => ""

/-- The text of a field whose value is something. -/
def fieldText? (context : Fields) (name : String) : Option String :=
  match context.get? name with
  | none | some .null => none
  | some value => some value.display

/-- What stands between the calls that led to a record and the failure that caused it. -/
def causeRule : String :=
  "\n\n" ++ String.ofList (List.replicate 79 '=') ++ "\n"

/-- The lines after a record on the console: the calls that led to it, and the failure that caused
it. -/
def afterLines (context : Fields) : String :=
  let failure := fieldText? context "exception"
  let failed := failure.isSome || ((context.get? "exc_info").getD .null).isTruthy
  let calls :=
    match fieldText? context "stack" with
    | some stack => "\n" ++ stack ++ if failed then causeRule else ""
    | none => ""
  match failure with
  | some text => calls ++ "\n" ++ text
  | none => calls

/-- A record on the console. -/
def consoleLine (time : String) (record : Record) : String :=
  let others := record.context.filter fun field => !placedFields.contains field.1
  time ++ " [" ++ padRight 9 record.level.name ++ "] " ++ padRight 30 record.message ++
    " [" ++ record.logger ++ "]" ++ otherLogger record.context ++
    String.join ((sortFields others).map fun field =>
      " " ++ field.1 ++ "=" ++ consoleValue field.2) ++
    afterLines record.context

/-- A record in a layout, with a line feed at its end. -/
def Record.line (layout : Layout) (time : String) (record : Record) : String :=
  (match layout with
  | .console => consoleLine time record
  | .json => Json.oneLine (.record (record.fields time))) ++ "\n"

end Tabletop.Log
