import Tabletop.Value

/-!
# Results

What an operation on a whole script comes to: whether it went well, the figures it found, warnings,
the error if it failed, and how the script was read. A result is turned into a record of values and
back by the names of its fields. How it is to be shown is an `OutputMode`.
-/

set_option autoImplicit false

namespace Tabletop

/-- Why an operation failed: a fixed code, words, and details. -/
structure OperationError where
  code : String
  message : String
  detail : Fields := []
  deriving Repr

/-- What an operation came to. -/
structure Result where
  ok : Bool
  op : String
  data : Fields := []
  warnings : List String := []
  error : Option OperationError := none
  context : Option Fields := none
  deriving Repr

/-- How results are to be shown. -/
structure OutputMode where
  asJson : Bool := false
  isQuiet : Bool := false
  isVerbose : Bool := false
  deriving DecidableEq, Repr

/-- A result of failure. -/
def Result.failure (op : String) (error : OperationError) (data : Fields)
    (context : Option Fields) : Result where
  ok := false
  op := op
  data := data
  error := some error
  context := context

/-- An error as a record. -/
def OperationError.toValue (error : OperationError) : Value :=
  .record
    [("code", .text error.code), ("message", .text error.message), ("detail", .record error.detail)]

/-- A result as a record. -/
def Result.toValue (result : Result) : Value :=
  .record
    [("ok", .bool result.ok),
      ("op", .text result.op),
      ("data", .record result.data),
      ("warnings", .list (result.warnings.map .text)),
      ("error", (result.error.map OperationError.toValue).getD .null),
      ("meta", (result.context.map Value.record).getD .null)]

end Tabletop
