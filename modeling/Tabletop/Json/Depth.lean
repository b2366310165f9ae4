import Tabletop.Json.Reader

/-!
# Depth of JSON text

Text is read only as deep as its lists and records may be nested (`readWithin`). The first bracket
that opens one too many ends the reading, whatever follows it; what is wrong with the text before it
counts first.

`readWithin_eq_ok_iff` says that a text which opens none too many is read as it is without a limit.
-/

set_option autoImplicit false

namespace Tabletop.Json

/-- A list or a record, as it is opened. -/
inductive Container where
  | list
  | record
  deriving DecidableEq, Repr

/-- How many lists and records are part way through. -/
def Reader.depth : Reader → Nat
  | .value frames => frames.length
  | .firstItem frames => frames.length + 1
  | .firstKey frames => frames.length + 1
  | .nextKey _ frames => frames.length + 1
  | .colon _ _ frames => frames.length + 1
  | .afterItem _ frames => frames.length + 1
  | .afterField _ frames => frames.length + 1
  | .done _ => 0

/-- The container that a token opens; every other token belongs to a list. -/
def Token.container : Token → Container
  | .openRecord => .record
  | _ => .list

/-- The tokens of a text up to the first character that no token takes. -/
def Scan.tokensBefore : Scan → List Char → List Token
  | scan, [] => scan.finish.getD []
  | scan, c :: cs =>
    match scan.step c with
    | none => []
    | some (done, next) => done ++ next.tokensBefore cs

/-- The first container that lies deeper than a limit, if no token before it is out of place. -/
def Reader.beyond? (limit : Nat) : Reader → List Token → Option Container
  | _, [] => none
  | reader, token :: tokens =>
    match reader.step token with
    | none => none
    | some next => if limit < next.depth then some token.container else next.beyond? limit tokens

/-- Why a text of JSON cannot be read. -/
inductive Fault where
  | malformed
  /-- A container lies too deep. -/
  | tooDeep (container : Container)
  deriving DecidableEq, Repr

/-- The container of a text that lies deeper than a limit. -/
def beyond? (limit : Nat) (text : String) : Option Container :=
  (Reader.value []).beyond? limit (Scan.between.tokensBefore text.toList)

/-- The value that a text of JSON stands for, where containers may be nested so deep. -/
def readWithin (limit : Nat) (text : String) : Except Fault Value :=
  match beyond? limit text with
  | some container => .error (.tooDeep container)
  | none =>
    match read? text with
    | some value => .ok value
    | none => .error .malformed

theorem readWithin_eq_ok_iff {limit : Nat} {text : String} {value : Value} :
    readWithin limit text = .ok value ↔ beyond? limit text = none ∧ read? text = some value := by
  unfold readWithin
  split <;> simp_all
  split <;> simp_all

end Tabletop.Json
