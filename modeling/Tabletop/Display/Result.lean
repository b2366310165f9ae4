import Tabletop.Display.Table
import Tabletop.Json.Printer
import Tabletop.Result

/-!
# Results as text

A result is shown in one of three ways: as JSON, as one line, or at length. JSON wins over the line,
and the line over the long form.

The long form begins with a headline. For a check that went well, its counts follow; for a failure,
the table of the rejected lines if the details of its error hold any. On demand the other details
and the context of the result stand at the end, field by field.

The long form is known for checks and failures only, and rejected lines have to be a list of
records. As JSON, values may be nested only so deep. `Undisplayable` says what else can be found.
-/

set_option autoImplicit false

namespace Tabletop

/-- Why a result cannot be shown. -/
inductive Undisplayable where
  /-- There is no long form for an operation that went well. -/
  | operation (op : String)
  /-- What stands for the rejected lines cannot be gone through. -/
  | rows (value : Value)
  /-- What stands for a rejected line is no record. -/
  | row (value : Value)
  /-- Values are nested too deep for JSON. -/
  | tooDeep
  deriving Repr

/-- The word for the kind of a value. -/
def Value.kindWord : Value → String
  | .null => "NoneType"
  | .bool _ => "bool"
  | .int _ => "int"
  | .real _ => "float"
  | .text _ => "str"
  | .moment _ => "datetime"
  | .list _ => "list"
  | .record _ => "dict"

namespace Undisplayable

/-- A fault in words. -/
def message : Undisplayable → String
  | operation op => Text.quoted op
  | rows value => Text.quoted value.kindWord ++ " object is not iterable"
  | row value => Text.quoted value.kindWord ++ " object has no attribute 'get'"
  | tooDeep => "Error serializing to JSON: ValueError: Maximum serialization depth exceeded"

end Undisplayable

namespace Display

/-- A line for each field, so many blanks from the left. -/
def fieldLines (indent : Nat) (fields : Fields) : List (List Char) :=
  fields.flatMap fun field =>
    exactLines resultWidth
      (String.ofList (List.replicate indent ' ') ++ field.1 ++ ": " ++ field.2.display)

/-- Fields under a title. -/
def titled (title : String) (fields : Fields) : List (List Char) :=
  exactLines resultWidth ("  " ++ title ++ ":") ++ fieldLines 4 fields

/-- The context of a result after an empty line, if there is any. -/
def contextLines (result : Result) : List (List Char) :=
  match result.context with
  | none => []
  | some [] => []
  | some fields => [] :: titled "meta" fields

/-- The row of a rejected line. -/
def rowOf (entry : Value) : Except Undisplayable Row :=
  match entry with
  | .record fields =>
    let cell (key : String) : String := ((Fields.get? fields key).map Value.display).getD ""
    .ok ⟨cell "line_no", cell "line", cell "reason"⟩
  | value => .error (.row value)

/-- The rows of the rejected lines. -/
def rowsOf (malformed : Value) : Except Undisplayable (List Row) :=
  match malformed with
  | .list entries => entries.mapM rowOf
  | .text _ | .record _ => .error (.row (.text ""))
  | value => .error (.rows value)

/-- The table of the rejected lines, if there are any. -/
def rejectedLines [Text.EmojiTable] (detail : Fields) :
    Except Undisplayable (List (List Char)) :=
  match detail.get? "malformed" with
  | none => .ok []
  | some malformed =>
    if malformed.isTruthy then tableLines resultWidth <$> rowsOf malformed else .ok []

/-- The figures of a check that are shown, in order. -/
def shownCounts : List String :=
  ["count", "valid", "blank"]

/-- The counts of a check that are there. -/
def countFields (data : Fields) : Fields :=
  shownCounts.filterMap fun key => (data.get? key).map fun value => (key, value)

end Display

namespace Result

open Display

/-- What went wrong. -/
def errorMessage (result : Result) : String :=
  (result.error.map OperationError.message).getD "Unknown error"

/-- A result as one line. -/
def quietText (result : Result) : String :=
  if result.ok then "OK: " ++ result.op
  else "ERROR: " ++ result.op ++ ": " ++ result.errorMessage

/-- The lines of an operation that went well. -/
def successLines (verbose : Bool) (result : Result) : Except Undisplayable (List (List Char)) :=
  if result.op = "check" then
    .ok
      (exactLines resultWidth ("OK  " ++ result.op)
        ++ fieldLines 2 (countFields result.data)
        ++ if verbose then contextLines result else [])
  else .error (.operation result.op)

/-- The lines of a failure. -/
def failureLines [Text.EmojiTable] (verbose : Bool) (result : Result) :
    Except Undisplayable (List (List Char)) := do
  let message := result.errorMessage
  let tail := if message = "" then "" else ": " ++ message
  let detail := (result.error.map OperationError.detail).getD []
  let rejected ← rejectedLines detail
  let others := detail.filter fun field => field.1 != "malformed"
  .ok
    (exactLines resultWidth ("ERROR  " ++ result.op ++ tail)
      ++ rejected
      ++ if verbose then
          (if others.isEmpty then [] else titled "detail" others) ++ contextLines result
        else [])

/-- A result at length. -/
def longText [Text.EmojiTable] (verbose : Bool) (result : Result) :
    Except Undisplayable String :=
  textOf <$> if result.ok then result.successLines verbose else result.failureLines verbose

/-- How deep the values of a result may be nested as JSON. -/
def maxJsonDepth : Nat := 255

/-- How deep the values that come with a result are nested. -/
def depth (result : Result) : Nat :=
  max (depthOfFields result.data)
    (max (depthOfFields ((result.error.map OperationError.detail).getD []))
      (depthOfFields (result.context.getD [])))

/-- A result as JSON. -/
def jsonText (result : Result) : Except Undisplayable String :=
  if maxJsonDepth < result.depth then .error .tooDeep
  else .ok (Json.indented result.toValue)

/-- A result in the way asked for. -/
def text [Text.EmojiTable] (mode : OutputMode) (result : Result) : Except Undisplayable String :=
  if mode.asJson then result.jsonText
  else if mode.isQuiet then .ok result.quietText
  else result.longText mode.isVerbose

end Result

end Tabletop
