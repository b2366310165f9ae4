import Tabletop.Board
import Tabletop.Command.Grammar
import Tabletop.Result
import Tabletop.Validation.Scalar

/-!
# Boards, commands and results out of values

How the types of the program are read from values: each from a record with a field for each of its
parts. Fields that mean nothing are passed over. A command says by its field `kind` which of the
five it is.

A board and the section that configures one declare their sides each for themselves (`SideRule`).
The two declarations come to the same (`BoardConfig.ofFields_eq`).
-/

set_option autoImplicit false

namespace Tabletop

open Validated (both)

/-- What the declaration of a side asks for: a length above a bound, and the length where none is
given. -/
structure SideRule where
  bound : Int
  standard : Int
  above : bound < standard

/-- The side that fields give by its name. -/
def SideRule.read (rule : SideRule) (fields : Fields) (key : String) :
    Validated { n : Int // rule.bound < n } :=
  fields.optional key ⟨rule.standard, rule.above⟩ (readAbove rule.bound)

namespace Board

/-- The declaration of the width of a board. -/
def widthRule : SideRule where
  bound := 0
  standard := defaultWidth
  above := defaultWidth_pos

/-- The declaration of the height of a board. -/
def heightRule : SideRule where
  bound := 0
  standard := defaultHeight
  above := defaultHeight_pos

/-- A board from the fields of its sides. -/
def ofFields (fields : Fields) : Validated Board := do
  let (width, height) ← both (widthRule.read fields "width") (heightRule.read fields "height")
  .ok ⟨width.1, height.1, width.2, height.2⟩

end Board

namespace BoardConfig

/-- The declaration of the width in the section that configures a board. -/
def widthRule : SideRule where
  bound := 0
  standard := Board.defaultWidth
  above := Board.defaultWidth_pos

/-- The declaration of the height in the section that configures a board. -/
def heightRule : SideRule where
  bound := 0
  standard := Board.defaultHeight
  above := Board.defaultHeight_pos

/-- The board that the fields of the section configure. -/
def ofFields (fields : Fields) : Validated Board := do
  let (width, height) ← both (widthRule.read fields "width") (heightRule.read fields "height")
  .ok ⟨width.1, height.1, width.2, height.2⟩

/-- The board that the section configures. -/
def ofValue (value : Value) : Validated Board :=
  readFieldsOf "BoardConfig" ofFields value

/-- The section is read into the board, or the problems, that its fields come to as those of a
board. -/
theorem ofFields_eq : ofFields = Board.ofFields :=
  rfl

end BoardConfig

/-- How strictly lines are read, from the fields that configure it. -/
def Mode.ofFields (fields : Fields) : Validated Mode :=
  Mode.ofLenient <$> fields.optional "lenient" false readBoolean

/-- How strictly lines are read, from the section that configures it. -/
def Mode.ofValue (value : Value) : Validated Mode :=
  readFieldsOf "ParserConfig" Mode.ofFields value

/-- A direction from its name, which has to be exact. -/
def Direction.ofValue (value : Value) : Validated Direction :=
  let unknown : Validated Direction := .fail (.notOneOf (Direction.clockwise.map Direction.name))
  match value with
  | .text name =>
    match Direction.ofName? name with
    | some direction => .ok direction
    | none => unknown
  | _ => unknown

namespace Command

/-- The words that name the kinds of commands. -/
def kinds : List String :=
  ["place", "move", "left", "right", "report"]

/-- A placement from the fields of its square and its direction. -/
def placeOfFields (fields : Fields) : Validated Command := do
  let (x, y, direction) ←
    both (fields.required "x" readInteger)
      (both (fields.required "y" readInteger) (fields.required "direction" Direction.ofValue))
  .ok (.place x y direction)

/-- A command from a value. -/
def ofValue : Value → Validated Command
  | .record fields =>
    match Fields.get? fields "kind" with
    | none => .fail (.noTag "kind")
    | some (.text "place") => (placeOfFields fields).under "place"
    | some (.text "move") => .ok .move
    | some (.text "left") => .ok .left
    | some (.text "right") => .ok .right
    | some (.text "report") => .ok .report
    | some tag => .fail (.unknownTag tag.display "kind" kinds)
  | _ => .fail .noFields

/-- A command as a record. -/
def toFields : Command → Fields
  | place x y direction =>
    [("kind", .text "place"), ("x", .int x), ("y", .int y), ("direction", .text direction.name)]
  | command => [("kind", .text command.kind)]

end Command

/-- A value that may be nothing. -/
def readOptional {α : Type} (read : Value → Validated α) : Value → Validated (Option α)
  | .null => .ok none
  | value => some <$> read value

/-- An error of an operation from the fields of its parts. -/
def OperationError.ofFields (fields : Fields) : Validated OperationError := do
  let (code, message, detail) ←
    both (fields.required "code" readString)
      (both (fields.required "message" readString) (fields.optional "detail" [] readRecord))
  .ok ⟨code, message, detail⟩

/-- An error of an operation from a value. -/
def OperationError.ofValue (value : Value) : Validated OperationError :=
  readFieldsOf "ServiceError" OperationError.ofFields value

/-- A result from the fields of its parts. -/
def Result.ofFields (fields : Fields) : Validated Result := do
  let (ok, op, data, warnings, error, context) ←
    both (fields.required "ok" readBoolean)
      (both (fields.required "op" readString)
        (both (fields.optional "data" [] readRecord)
          (both (fields.optional "warnings" [] (readList readString))
            (both (fields.optional "error" none (readOptional OperationError.ofValue))
              (fields.optional "meta" none (readOptional readRecord))))))
  .ok ⟨ok, op, data, warnings, error, context⟩

/-- A result from a value. -/
def Result.ofValue (value : Value) : Validated Result :=
  readFieldsOf "ServiceResult" Result.ofFields value

/-- How results are to be shown, from the fields of the flags that say it. -/
def OutputMode.ofFields (fields : Fields) : Validated OutputMode := do
  let (asJson, isQuiet, isVerbose) ←
    both (fields.optional "json_output" false readBoolean)
      (both (fields.optional "quiet" false readBoolean)
        (fields.optional "verbose" false readBoolean))
  .ok ⟨asJson, isQuiet, isVerbose⟩

/-- The record that stands where a value is missing or means nothing. -/
def recordOrEmpty (value : Option Value) : Value :=
  match value with
  | some given => if given.isTruthy then given else .record []
  | none => .record []

/-- A result of failure from the fields of its parts: first the error is read, then the rest. -/
def Result.failureOfFields (fields : Fields) : Validated Result := do
  let part (key : String) : Value := (fields.get? key).getD .null
  let error ←
    OperationError.ofFields
      [("code", part "code"), ("message", part "message"),
        ("detail", recordOrEmpty (fields.get? "detail"))]
  let (op, data, context) ←
    both (readString (part "op") |>.under "op")
      (both (readRecord (recordOrEmpty (fields.get? "data")) |>.under "data")
        (readOptional readRecord (part "meta") |>.under "meta"))
  .ok (Result.failure op error data context)

end Tabletop
